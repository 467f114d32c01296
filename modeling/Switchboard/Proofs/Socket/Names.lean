import Switchboard.Proofs.Socket.Hosts

/-!
# Names in a directory

A service is published at the path of its name, where every slash is written as an at sign. So a path is shared by the names
that agree but for slashes in place of at signs, and by no others (`socketName_eq_iff`); of the names without at signs each has a
path of its own (`SharePath.eq_of_no_at`).

`names_law` says what a name is worth after whatever was done at a site: a lookup reaches a host that was published under a name
of the same path, and a publication takes away no sockets but those of its path. That the two names are the same cannot be said
(`slash_mixed_with_at`).
-/

namespace Switchboard

variable {σ ρ : Type}

/-! ## Names that share a path -/

/-- Two names agree but for slashes in place of at signs. -/
def SharePath (name other : String) : Prop :=
  List.Forall₂ (fun c d => c = d ∨ (c = '/' ∨ c = '@') ∧ (d = '/' ∨ d = '@')) name.toList other.toList

/-- Such names have the same path, and no others do. -/
theorem socketName_eq_iff {name other : String} : socketName name = socketName other ↔ SharePath name other := by
  have hchar : ∀ c d : Char, (if c = '/' then '@' else c) = (if d = '/' then '@' else d) ↔
      c = d ∨ (c = '/' ∨ c = '@') ∧ (d = '/' ∨ d = '@') := by
    intro c d
    by_cases hc : c = '/'
    · by_cases hd : d = '/'
      · simp [hc, hd]
      · simp [hc, hd, eq_comm]
    · by_cases hd : d = '/'
      · simp [hc, hd]
      · simp only [hc, hd, if_false, false_or]
        exact ⟨.inl, fun h => h.elim id fun h => h.1.trans h.2.symm⟩
  rw [socketName, socketName, String.ofList_inj, ← List.forall₂_eq_eq_eq, List.forall₂_map_left_iff,
    List.forall₂_map_right_iff, SharePath]
  simp only [hchar]

/-- Names without at signs share their paths with themselves alone. -/
theorem SharePath.eq_of_no_at {name other : String} (h : SharePath name other) (hname : '@' ∉ name.toList)
    (hother : '@' ∉ other.toList) : name = other := by
  refine String.toList_injective ?_
  unfold SharePath at h
  generalize name.toList = cs at h hname
  generalize other.toList = ds at h hother
  induction h with
  | nil => rfl
  | cons hchar _ ih =>
    obtain ⟨hc, hcs⟩ := not_or.mp (mt List.mem_cons.mpr hname)
    obtain ⟨hd, hds⟩ := not_or.mp (mt List.mem_cons.mpr hother)
    have hsame := hchar.elim id fun h => (h.1.resolve_right (Ne.symm hc)).trans (h.2.resolve_right (Ne.symm hd)).symm
    rw [hsame, ih hcs hds]

/-! ## Whose socket lies at a path -/

/-- What a host was published as. -/
def Host.offer (host : Host σ) : String × Service σ :=
  (host.name, host.service)

namespace Network

variable {n n' : Network σ ρ}

/-- Every socket of a host lies at the path of its name. -/
def Labelled (n : Network σ ρ) : Prop :=
  ∀ file h, n.files.lookup file = some (.socket (.host h)) → ∃ host, n.hosts[h]? = some host ∧ socketName host.name = file

/-- The hosts are those of before, and no socket of one is new. -/
structure Inherits (n n' : Network σ ρ) : Prop where
  offers : n'.hosts.map Host.offer = n.hosts.map Host.offer
  sockets : ∀ file h, n'.files.lookup file = some (.socket (.host h)) → n.files.lookup file = some (.socket (.host h))

/-- A host that is inherited was there. -/
theorem Inherits.host (h : n.Inherits n') {g : Nat} {host' : Host σ} (hg : n'.hosts[g]? = some host') :
    ∃ host, n.hosts[g]? = some host ∧ host.offer = host'.offer := by
  have hoffer : (n.hosts.map Host.offer)[g]? = some host'.offer := by
    rw [← h.offers, List.getElem?_map, hg, Option.map_some]
  rw [List.getElem?_map] at hoffer
  exact Option.map_eq_some_iff.mp hoffer

/-- Hosts that are inherited keep their names at their paths. -/
theorem Inherits.labelled (h : n.Inherits n') (hn : n.Labelled) : n'.Labelled := by
  intro file g hsocket
  obtain ⟨host, hg, hname⟩ := hn file g (h.sockets file g hsocket)
  have hoffer : (n'.hosts.map Host.offer)[g]? = some host.offer := by
    rw [h.offers, List.getElem?_map, hg, Option.map_some]
  rw [List.getElem?_map] at hoffer
  obtain ⟨host', hg', hsame⟩ := Option.map_eq_some_iff.mp hoffer
  have hsame : host'.name = host.name := congrArg Prod.fst hsame
  exact ⟨host', hg', hsame ▸ hname⟩

theorem Inherits.refl (n : Network σ ρ) : n.Inherits n :=
  ⟨rfl, fun _ _ h => h⟩

/-- What is found among files of which some were taken away was there. -/
theorem lookup_of_lookup_filter {files : List (String × FileEntry)} {path file : String} {e : FileEntry}
    (h : (files.filter (·.1 != path)).lookup file = some e) : files.lookup file = some e := by
  by_cases hfile : file = path
  · subst hfile
    have hgone : (files.filter (·.1 != file)).lookup file = none := by
      rw [List.lookup_eq_none_iff]
      intro entry hentry
      have hne : entry.1 ≠ file := by simpa using (List.mem_filter.mp hentry).2
      exact bne_iff_ne.mpr hne.symm
    rw [hgone] at h
    cases h
  · rwa [lookup_filter_of_ne hfile] at h

/-- Removing an entry leaves the hosts what they were. -/
theorem inherits_removeEntry (name : String) : n.Inherits (n.removeEntry name) :=
  ⟨rfl, fun _ _ h => lookup_of_lookup_filter h⟩

/-- Nor is a file or a directory the socket of a host. -/
theorem inherits_putEntry {name : String} {e : FileEntry} (he : ∀ h, e ≠ .socket (.host h)) :
    n.Inherits (n.putEntry name e) := by
  refine ⟨rfl, fun file h hsocket => ?_⟩
  rw [putEntry, List.lookup_cons] at hsocket
  split at hsocket
  · exact absurd (Option.some.inj hsocket) (he h)
  · exact lookup_of_lookup_filter hsocket

/-- So does putting in something that is no socket of a host. -/
theorem inherits_obstruct {name : String} {e : FileEntry} (he : ∀ h, e ≠ .socket (.host h)) :
    n.Inherits (n.obstruct name e).2 := by
  unfold obstruct
  simp only
  split
  · split
    · have h : n.Inherits (n.putEntry name e) := inherits_putEntry he
      exact ⟨rfl, h.sockets⟩
    · exact ⟨rfl, fun _ _ h => h⟩
  · exact ⟨rfl, fun _ _ h => h⟩

/-- A host that stops running stays what it was published as. -/
theorem offers_shutdown (hosts : List (Host σ)) (h : Nat) :
    (hosts.modify h fun host => { host with running := false }).map Host.offer = hosts.map Host.offer := by
  refine List.ext_getElem? fun g => ?_
  rw [List.getElem?_map, getElem?_shutdown, List.getElem?_map]
  cases hosts[g]? with
  | none => rfl
  | some host =>
    rw [Option.map_some, Option.map_some]
    split <;> rfl

end Network

namespace Site

variable {s : Site σ ρ}

/-- A shutdown takes a socket away at most. -/
theorem inherits_shutdown (hn : s.network.Sound) (h : Nat) :
    s.network.Inherits ((shutdown h).run s).state.network := by
  rw [shutdown, Act.run_bind]
  simp only [Act.run_get]
  split
  · exact .refl _
  · rename_i host hh
    split
    · exact .refl _
    · split
      · cases hl : s.network.listener? host.name with
        | none =>
          obtain ⟨e, hconnect⟩ := Network.connect_of_no_listener hn.unscripted hl
          simp only [Act.run_bind, run_onNetwork, hconnect, Act.run_hang]
          exact .refl _
        | some g =>
          simp only [Act.run_bind, run_onNetwork, Network.connect_of_listener hl, Act.run_hang]
          exact ⟨rfl, fun _ _ h => h⟩
      · rw [Act.run_bind]
        simp only [run_change]
        split
        · exact ⟨Network.offers_shutdown _ _, fun _ _ h => h⟩
        · exact ⟨Network.offers_shutdown _ _, fun _ _ h => Network.lookup_of_lookup_filter h⟩

/-- Every step but a publication leaves the hosts what they are, and no socket of one is new after it. -/
theorem inherits_act (hn : s.network.Sound) (a : SiteStep σ ρ) (ha : ∀ name service, a ≠ .publish name service) :
    s.network.Inherits (a.act.run s).state.network := by
  have hused : ∀ {n' : Network σ ρ}, s.network.UsesObject n' → s.network.Inherits n' := by
    rintro n' (rfl | ⟨-, -, -, -, -, rfl⟩)
    · exact .refl _
    · exact ⟨rfl, fun _ _ h => h⟩
  have haccepted : ∀ {n' : Network σ ρ}, s.network.Accepts n' → s.network.Inherits n' := by
    rintro n' (rfl | ⟨-, -, rfl⟩)
    · exact .refl _
    · exact ⟨rfl, fun _ _ h => h⟩
  cases a with
  | publish name service => exact absurd rfl (ha name service)
  | shutdown h => exact inherits_shutdown hn h
  | lookup name => simpa [SiteStep.act] using haccepted (accepts_lookup hn name)
  | link b r => simpa [SiteStep.act] using haccepted (accepts_link hn b r)
  | transact b code data => simpa [SiteStep.act] using hused (usesObject_transact hn b code data)
  | write b bytes => exact hused (usesObject_write hn b bytes)
  | read b => exact hused (usesObject_read hn b)
  | watch => exact ⟨rfl, fun _ _ h => h⟩
  | drop b => exact ⟨rfl, fun _ _ h => h⟩
  | obstruct name directory =>
    refine Network.inherits_obstruct fun h => ?_
    split <;> simp
  | remove name => exact Network.inherits_removeEntry name
  | elsewhere f => exact .refl _

/-- A new host lies at the path of its name, and the others where they were. -/
theorem labelled_publish (hn : s.network.Labelled) (name : String) (service : Service σ) :
    ((publish name service).run s).state.network.Labelled := by
  rcases publish_cases (s := s) name service with ⟨e, files, -, hstate, hfiles⟩ | ⟨-, hstate, -, -⟩
  · rw [hstate]
    refine Network.Inherits.labelled (n := s.network) ⟨rfl, fun file h hsocket => ?_⟩ hn
    rcases hfiles with rfl | ⟨-, rfl⟩
    · exact hsocket
    · exact Network.lookup_of_lookup_filter hsocket
  · rw [hstate]
    intro file h hsocket
    change ((socketName name, FileEntry.socket (.host s.network.hosts.length)) ::
      s.network.files.filter (·.1 != socketName name)).lookup file = _ at hsocket
    rw [List.lookup_cons] at hsocket
    split at hsocket
    · rename_i hfile
      injection hsocket with hsocket
      injection hsocket with hsocket
      injection hsocket with hsocket
      subst hsocket
      exact ⟨⟨name, service, true⟩, List.getElem?_concat_length, (beq_iff_eq.mp hfile).symm⟩
    · obtain ⟨host, hh, hname⟩ := hn file h (Network.lookup_of_lookup_filter hsocket)
      exact ⟨host, Network.getElem?_hosts_of_lt hh, hname⟩

end Site

/-! ## Runs -/

/-- Every host was published by one of the steps. -/
def Network.PublishedBy (n : Network σ ρ) (steps : List (SiteStep σ ρ)) : Prop :=
  ∀ (h : Nat) (host : Host σ), n.hosts[h]? = some host → SiteStep.publish host.name host.service ∈ steps

namespace Site

variable {s : Site σ ρ}

/-- The hosts after a publication were there or are what was published. -/
theorem host_publish {name : String} {service : Service σ} {h : Nat} {host : Host σ}
    (hh : ((publish name service).run s).state.network.hosts[h]? = some host) :
    s.network.hosts[h]? = some host ∨ host = ⟨name, service, true⟩ := by
  rcases publish_cases (s := s) name service with ⟨e, files, -, hstate, -⟩ | ⟨-, hstate, -, -⟩
  · rw [hstate] at hh
    exact .inl hh
  · rw [hstate] at hh
    exact (host_withHost hh).imp_right And.right

/-- What one step makes of the labels. -/
theorem labelled_act (hn : s.network.Sound) (hlabelled : s.network.Labelled) (a : SiteStep σ ρ) :
    (a.act.run s).state.network.Labelled := by
  by_cases hpublish : ∃ name service, a = .publish name service
  · obtain ⟨name, service, rfl⟩ := hpublish
    simpa [SiteStep.act] using labelled_publish hlabelled name service
  · exact (inherits_act hn a fun name service ha => hpublish ⟨name, service, ha⟩).labelled hlabelled

/-- After a step the hosts are those that the steps up to it have published. -/
theorem publishedBy_act (hn : s.network.Sound) {steps : List (SiteStep σ ρ)} (hsteps : s.network.PublishedBy steps)
    (a : SiteStep σ ρ) : (a.act.run s).state.network.PublishedBy (steps ++ [a]) := by
  intro h host hh
  by_cases hpublish : ∃ name service, a = .publish name service
  · obtain ⟨name, service, rfl⟩ := hpublish
    simp only [SiteStep.act, Act.run_map] at hh
    rcases host_publish hh with hh | rfl
    · exact List.mem_append_left _ (hsteps h host hh)
    · exact List.mem_append_right _ (List.mem_singleton_self _)
  · obtain ⟨before, hbefore, hoffer⟩ := (inherits_act hn a fun name service ha => hpublish ⟨name, service, ha⟩).host hh
    obtain ⟨hname, hservice⟩ := Prod.mk.inj hoffer
    rw [← hname, ← hservice]
    exact List.mem_append_left _ (hsteps h before hbefore)

/-- After any steps sockets lie at the paths of their hosts' names, and the hosts are those that were published. -/
theorem labelled_after (backend : σ) (dir : String) (steps : List (SiteStep σ ρ)) :
    ((new backend dir : Site σ ρ).after steps).network.Labelled ∧
      ((new backend dir : Site σ ρ).after steps).network.PublishedBy steps := by
  induction steps using List.reverseRecOn with
  | nil =>
    refine ⟨fun file h hsocket => ?_, fun h host hh => ?_⟩
    · cases hsocket
    · cases hh
  | append_singleton steps a ih =>
    have hn := sound_after (ρ := ρ) backend dir steps
    rw [after_append]
    exact ⟨labelled_act hn ih.1 a, publishedBy_act hn ih.2 a⟩

end Site

/-! ## The law -/

/-- What a name is worth at a site that some steps have led to. -/
structure NamesLaw (steps : List (SiteStep σ ρ)) (s : Site σ ρ) : Prop where
  /-- A lookup that succeeds connects its object to a host that runs, and that one of the steps published under a name of the same
  path; under the same name, if there are no at signs in the two. -/
  reaches : ∀ (name : String) (b : Nat), ((Site.lookup name).run s).value = some (some b) →
    ∃ o h host, ((Site.lookup name).run s).state.network.objects[b]? = some o ∧
      ((Site.lookup name).run s).state.network.hostOf o.connection = some h ∧
      s.network.hosts[h]? = some host ∧ host.running = true ∧ SiteStep.publish host.name host.service ∈ steps ∧
      SharePath host.name name ∧ ('@' ∉ host.name.toList → '@' ∉ name.toList → host.name = name)
  /-- A host that was just published is found under every name that shares the path of its own. -/
  found : ∀ (name other : String) (service : Service σ) (h : Nat) (t : Site σ ρ),
    ((Site.publish name service).run s).value = some (.ok h) → t = ((Site.publish name service).run s).state →
    SharePath other name →
    ∃ b o, ((Site.lookup other).run t).value = some (some b) ∧
      ((Site.lookup other).run t).state.network.objects[b]? = some o ∧
      ((Site.lookup other).run t).state.network.hostOf o.connection = some h
  /-- A publication leaves a host alone, and its socket where it is, whose name does not share the path. -/
  spares : ∀ (name : String) (service : Service σ) (h : Nat) (host : Host σ), s.network.hosts[h]? = some host →
    s.network.Listens h host.name → ¬SharePath host.name name →
    ((Site.publish name service).run s).state.network.hosts[h]? = some host ∧
      ((Site.publish name service).run s).state.network.Listens h host.name

namespace Site

variable {s : Site σ ρ}

/-- Where a host listens, sockets are no dots. -/
theorem not_dots_of_listens {h : Nat} {name : String} (hlistens : s.network.Listens h name) :
    isDots (socketName name) = false := by
  rw [← Bool.not_eq_true]
  intro hdots
  rw [Network.Listens, Network.entryAt?, if_pos hdots] at hlistens
  split at hlistens <;> cases hlistens

/-- A lookup connects its object to the host that listens at the path of the name. -/
theorem lookup_of_listener {name : String} {h : Nat} (hl : s.network.listener? name = some h) :
    ∃ o, ((lookup name).run s).value = some (some s.network.objects.length) ∧
      ((lookup name).run s).state.network.objects[s.network.objects.length]? = some o ∧
      ((lookup name).run s).state.network.hostOf o.connection = some h := by
  rw [run_lookup_of_listener hl]
  refine ⟨⟨name, s.network.connections.length, true, []⟩, rfl, List.getElem?_concat_length, ?_⟩
  exact (Network.hostOf_accept h _).trans (if_pos rfl)

/-- A publication at another path takes no socket away. -/
theorem listens_publish_of_ne {name : String} (service : Service σ) {h : Nat} {other : String}
    (hlistens : s.network.Listens h other) (hpath : socketName other ≠ socketName name) :
    ((publish name service).run s).state.network.Listens h other := by
  have hdots := not_dots_of_listens hlistens
  rcases publish_cases (s := s) name service with ⟨e, files, -, hstate, hfiles⟩ | ⟨-, hstate, -, -⟩
  · rw [Network.Listens, Network.entryAt?_of_not_dots hdots] at hlistens ⊢
    rw [hstate]
    rcases hfiles with rfl | ⟨-, rfl⟩
    · exact hlistens
    · exact (Network.lookup_filter_of_ne hpath).trans hlistens
  · rw [hstate]
    exact (Network.entryAt?_putEntry_of_ne (n := s.network) _ hdots hpath).trans hlistens

end Site

/-- The law of names, after any steps of anybody. -/
theorem names_law (backend : σ) (dir : String) (steps : List (SiteStep σ ρ)) :
    NamesLaw steps ((Site.new backend dir).after steps) := by
  have hn := Site.sound_after (ρ := ρ) backend dir steps
  obtain ⟨hlabelled, hpublished⟩ := Site.labelled_after (ρ := ρ) backend dir steps
  generalize (Site.new backend dir : Site σ ρ).after steps = s at hn hlabelled hpublished
  constructor
  case reaches =>
    intro name b hfound
    cases hl : s.network.listener? name with
    | none =>
      rw [(Site.run_lookup_of_no_listener hn.unscripted hl).1] at hfound
      cases hfound
    | some h =>
      obtain ⟨o, hvalue, ho, hhost⟩ := Site.lookup_of_listener hl
      obtain rfl : s.network.objects.length = b := Option.some.inj (Option.some.inj (hvalue.symm.trans hfound))
      have hlistens : s.network.Listens h name := Network.entryAt?_of_listener hl
      have hsocket := (Network.entryAt?_of_not_dots (Site.not_dots_of_listens hlistens)).symm.trans hlistens
      obtain ⟨host, hh, hpath⟩ := hlabelled _ h hsocket
      have hshare := socketName_eq_iff.mp hpath
      refine ⟨o, h, host, ho, hhost, hh, ?_, hpublished h host hh, hshare, hshare.eq_of_no_at⟩
      rw [← Network.isRunning_of_host hh]
      exact Network.isRunning_of_listener hl
  case found =>
    rintro name other service h t hok rfl hshare
    rcases Site.publish_cases (s := s) name service with ⟨e, files, hrefused, -, -⟩ | ⟨hvalue, hstate, haddress, hdots⟩
    · rw [hrefused] at hok
      cases hok
    · obtain rfl : s.network.hosts.length = h := Except.ok.inj (Option.some.inj (hvalue.symm.trans hok))
      have hpath := socketName_eq_iff.mpr hshare
      have hl : ((Site.publish name service).run s).state.network.listener? other = some s.network.hosts.length := by
        rw [hstate, Network.listener?, Network.isAddressable_congr hpath, Network.entryAt?_congr hpath]
        exact Site.listener_withHost service haddress hdots
      obtain ⟨o, hfound, ho, hhost⟩ := Site.lookup_of_listener hl
      exact ⟨_, o, hfound, ho, hhost⟩
  case spares =>
    intro name service h host hh hlistens hshare
    have hpath : socketName host.name ≠ socketName name := mt socketName_eq_iff.mp hshare
    refine ⟨?_, Site.listens_publish_of_ne service hlistens hpath⟩
    rcases Site.publish_cases (s := s) name service with ⟨e, files, -, hstate, -⟩ | ⟨-, hstate, -, -⟩
    · rw [hstate]
      exact hh
    · rw [hstate]
      exact Network.getElem?_hosts_of_lt hh

/-! ### A slash and an at sign -/

namespace Mixed

/-- A host is published under a name with a slash. -/
def slashed : Site Unit Unit :=
  (Site.new () "d").after [.publish "a/b" Service.echo]

/-- Another one is published under the name with an at sign in place of the slash. -/
def both : Site Unit Unit :=
  slashed.after [.publish "a@b" Service.echo]

/-- The site with the first host, in one piece. -/
theorem slashed_eq :
    slashed = ⟨(), "d", true, [("a@b", .socket (.host 0))], [⟨"a/b", Service.echo, true⟩], [], [], []⟩ := by
  with_unfolding_all rfl

/-- The site with both hosts, in one piece. -/
theorem both_eq :
    both = ⟨(), "d", true, [("a@b", .socket (.host 1))], [⟨"a/b", Service.echo, true⟩, ⟨"a@b", Service.echo, true⟩], [], [], []⟩ := by
  rw [both, slashed_eq]
  with_unfolding_all rfl

end Mixed

open Mixed

/-- A lookup of the name with an at sign reaches the host that was published under the one with a slash; and a publication under
that name takes the path of this host, which still runs. -/
theorem slash_mixed_with_at :
    (((Site.lookup "a@b").run slashed).value = some (some 0) ∧
      ((Site.lookup "a@b").run slashed).state.network.hostOf 0 = some 0 ∧
      slashed.network.hosts[0]? = some ⟨"a/b", Service.echo, true⟩) ∧
    slashed.network.Listens 0 "a/b" ∧ both.network.isRunning 0 = true ∧ both.network.Listens 1 "a/b" := by
  have hlistener : slashed.network.listener? "a@b" = some 0 := by
    rw [slashed_eq]
    with_unfolding_all rfl
  have hshare : socketName "a/b" = socketName "a@b" := rfl
  refine ⟨⟨?_, ?_, ?_⟩, ?_, ?_, ?_⟩
  · rw [Site.run_lookup_of_listener hlistener, slashed_eq]
    rfl
  · rw [Site.run_lookup_of_listener hlistener]
    refine (Network.hostOf_accept 0 0).trans (if_pos ?_)
    rw [slashed_eq]
    rfl
  · rw [slashed_eq]
    rfl
  · rw [Network.Listens, Network.entryAt?_congr hshare]
    exact Network.entryAt?_of_listener hlistener
  · rw [both_eq]
    rfl
  · rw [Network.Listens, Network.entryAt?_congr hshare, both_eq]
    rfl

end Switchboard
