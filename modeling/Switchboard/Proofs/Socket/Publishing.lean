import Switchboard.Proofs.Socket.Steps

/-!
# What a publication comes to

A publication is refused, and then no host is added, though the directory may have been tidied before; or the new host listens
at the path of its name (`Site.publish_cases`, `Site.listener_withHost`), in place of whatever lay there.
-/

namespace Switchboard

variable {σ ρ : Type}

namespace Network

variable {n : Network σ ρ}

/-- What is taken away at one path leaves the other ones alone. -/
theorem lookup_filter_of_ne {files : List (String × FileEntry)} {path other : String} (hne : other ≠ path) :
    (files.filter (·.1 != path)).lookup other = files.lookup other := by
  induction files with
  | nil => rfl
  | cons file files ih =>
    by_cases hpath : file.1 = path
    · have hother : (other == file.1) = false := by simp [hpath, hne]
      rw [List.filter_cons_of_neg (by simp [hpath]), ih, List.lookup_cons, hother]
    · rw [List.filter_cons_of_pos (by simp [hpath]), List.lookup_cons, List.lookup_cons, ih]

/-- What lies at a path that is no dots is told by the files alone. -/
theorem entryAt?_of_not_dots {name : String} (hdots : isDots (socketName name) = false) :
    n.entryAt? name = n.files.lookup (socketName name) := by
  rw [entryAt?, hdots]
  rfl

variable {name other : String}

/-- What was put at the path of a service lies there. -/
theorem entryAt?_putEntry (e : FileEntry) (hdots : isDots (socketName name) = false) :
    (n.putEntry name e).entryAt? name = some e := by
  simp [entryAt?_of_not_dots hdots, putEntry]

/-- Other paths are left alone by it. -/
theorem entryAt?_putEntry_of_ne (e : FileEntry) (hdots : isDots (socketName other) = false)
    (hne : socketName other ≠ socketName name) : (n.putEntry name e).entryAt? other = n.entryAt? other := by
  have hother : (socketName other == socketName name) = false := by simp [hne]
  rw [entryAt?_of_not_dots hdots, entryAt?_of_not_dots hdots, putEntry, List.lookup_cons, hother]
  exact lookup_filter_of_ne hne

/-- Nothing lies where something was removed. -/
theorem entryAt?_removeEntry (hdots : isDots (socketName name) = false) : (n.removeEntry name).entryAt? name = none := by
  rw [entryAt?_of_not_dots hdots, removeEntry, List.lookup_eq_none_iff]
  intro file hfile
  have hne : file.1 ≠ socketName name := by simpa using (List.mem_filter.mp hfile).2
  exact bne_iff_ne.mpr hne.symm

/-- Other paths are left alone by that too. -/
theorem entryAt?_removeEntry_of_ne (hdots : isDots (socketName other) = false)
    (hne : socketName other ≠ socketName name) : (n.removeEntry name).entryAt? other = n.entryAt? other := by
  rw [entryAt?_of_not_dots hdots, entryAt?_of_not_dots hdots, removeEntry]
  exact lookup_filter_of_ne hne

end Network

namespace Site

variable {s : Site σ ρ}

/-- The site after a host is published at the path of a name. -/
def withHost (s : Site σ ρ) (name : String) (service : Service σ) : Site σ ρ :=
  { s with network :=
    { s.network.putEntry name (.socket (.host s.network.hosts.length)) with
      hosts := s.network.hosts ++ [⟨name, service, true⟩] } }

/-- A publication is refused, with no more than the directory tidied, or adds a host at an address. -/
theorem publish_cases (name : String) (service : Service σ) :
    (∃ e files, ((publish name service).run s).value = some (.error e) ∧
        ((publish name service).run s).state = { s with network := { s.network with made := true, files } } ∧
        (files = s.network.files ∨ s.network.isAddressable name = false ∧
          files = s.network.files.filter (·.1 != socketName name))) ∨
      (((publish name service).run s).value = some (.ok s.network.hosts.length) ∧
        ((publish name service).run s).state = s.withHost name service ∧ s.network.isAddressable name = true ∧
        isDots (socketName name) = false) := by
  simp only [publish, Act.run_bind, run_change, Act.run_get]
  split
  · exact .inl ⟨_, s.network.files, rfl, rfl, .inl rfl⟩
  · rename_i hnul
    split
    · exact .inl ⟨_, s.network.files, rfl, rfl, .inl rfl⟩
    · split
      · exact .inl ⟨_, s.network.files, rfl, rfl, .inl rfl⟩
      · rename_i hdirectory
        have hdots : isDots (socketName name) = false := by
          rw [← Bool.not_eq_true]
          intro hdots
          exact hdirectory (by simp [Network.entryAt?, hdots])
        by_cases hlong : Network.addressLimit < (socketPath s.network.dir name).utf8ByteSize
        · have haddress : s.network.isAddressable name = false := by
            rw [Network.isAddressable, decide_eq_false (Nat.not_le.mpr hlong), Bool.and_false]
          split
          · refine .inl ⟨.publish (socketPath s.network.dir name) .pathTooLong,
              s.network.files.filter fun f => f.1 != socketName name, ?_, ?_, .inr ⟨haddress, rfl⟩⟩
            · simp [Act.run_bind]
            · simp [Act.run_bind, Network.removeEntry]
          · refine .inl ⟨.publish (socketPath s.network.dir name) .pathTooLong, s.network.files, ?_, ?_, .inl rfl⟩
            · simp
            · simp
        · refine .inr ⟨?_, ?_, ?_, hdots⟩
          · split <;> simp [Act.run_bind]
          · split <;> simp [Act.run_bind, withHost, Network.putEntry, Network.removeEntry]
          · simp only [Network.isAddressable, Bool.and_eq_true, Bool.not_eq_true', decide_eq_true_eq]
            exact ⟨Bool.eq_false_iff.mpr hnul, Nat.not_lt.mp hlong⟩

/-- A host that was published listens at the path of its name. -/
theorem listener_withHost {name : String} (service : Service σ) (haddress : s.network.isAddressable name = true)
    (hdots : isDots (socketName name) = false) :
    (s.withHost name service).network.listener? name = some s.network.hosts.length := by
  have hentry : (s.withHost name service).network.entryAt? name = some (.socket (.host s.network.hosts.length)) :=
    Network.entryAt?_putEntry (n := s.network) _ hdots
  have hrunning : (s.withHost name service).network.isRunning s.network.hosts.length = true := by
    simp [withHost, Network.isRunning]
  have haddress' : (s.withHost name service).network.isAddressable name = true := haddress
  simp [Network.listener?, haddress', hentry, hrunning]

end Site

end Switchboard
