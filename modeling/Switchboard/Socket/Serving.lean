import Switchboard.Socket.Message
import Switchboard.Service.Basic
import Switchboard.Tube.Frame

/-!
# Serving a connection

What a client writes on a connection is a stream of bytes. Its requests are the frames at its front, each of which holds a
request; the first frame that does not ends the serving. Requests are answered in their order, one frame for each, and an
answer that is too long for a frame ends the serving too.

The client's end is there to take every answer here. One that is closed before is in `Dialogue`, which goes through the same loop
step by step.
-/

namespace Switchboard

/-- How the requests at the front of a stream end. -/
inductive RequestsEnd where
  /-- What is left may still grow into a frame. -/
  | open (rest : List UInt8)
  /-- A frame is no request. -/
  | refused (e : TubeError)
deriving Repr

/-- A frame takes at least its header from the stream. -/
theorem Frame.length_of_next_frame {s body rest : List UInt8} (h : Frame.next s = .frame body rest) :
    rest.length < s.length := by
  unfold Frame.next at h
  split at h
  · rename_i a b c d tail
    simp only at h
    split at h
    · simp at h
    · split at h
      · simp at h
      · unfold Frame.splitAt? at h
        simp only [List.splitAt_eq] at h
        split at h
        · rename_i hs
          split at hs
          · simp only [Option.some.injEq, Prod.mk.injEq] at hs
            simp only [Frame.Next.frame.injEq] at h
            rw [← h.2, ← hs.2]
            simp only [List.length_drop, List.length_cons]
            omega
          · simp at hs
        · simp at h
  · simp at h

/-- The requests at the front of a stream. -/
def HostRequest.scan (s : List UInt8) : List HostRequest × RequestsEnd :=
  match _ : Frame.next s with
  | .incomplete => ([], .open s)
  | .refused e _ => ([], .refused e)
  | .frame body rest =>
    match (Parcel.ofMessage body : Except TubeError HostRequest) with
    | .error e => ([], .refused e)
    | .ok request =>
      let (requests, ending) := HostRequest.scan rest
      (request :: requests, ending)
termination_by s.length
decreasing_by exact Frame.length_of_next_frame ‹_›

namespace HostRequest

variable {s body rest : List UInt8} {e : TubeError}

/-- What is not yet a frame stays for later. -/
theorem scan_of_incomplete (h : Frame.next s = .incomplete) : scan s = ([], .open s) := by
  rw [scan.eq_def]
  split <;> simp_all

/-- A length that no frame may have ends the requests. -/
theorem scan_of_refused (h : Frame.next s = .refused e rest) : scan s = ([], .refused e) := by
  rw [scan.eq_def]
  split <;> simp_all

/-- A frame with a request is the first of them. -/
theorem scan_of_frame {request : HostRequest} (h : Frame.next s = .frame body rest)
    (hr : (Parcel.ofMessage body : Except TubeError HostRequest) = .ok request) :
    scan s = (request :: (scan rest).1, (scan rest).2) := by
  rw [scan.eq_def]
  split <;> simp_all

/-- A frame with anything else ends them. -/
theorem scan_of_undecodable (h : Frame.next s = .frame body rest)
    (hr : (Parcel.ofMessage body : Except TubeError HostRequest) = .error e) : scan s = ([], .refused e) := by
  rw [scan.eq_def]
  split <;> simp_all

end HostRequest

/-- The answer to a request. -/
def HostRequest.answer {σ : Type} (service : Service σ) : HostRequest → Act σ HostReply
  | .transact code data => HostReply.ofResult <$> service code data
  | .linkToDeath => pure .linked

/-- The frames of the answers to requests, and whether the serving goes on behind them. -/
def HostRequest.answerAll {σ : Type} (service : Service σ) : List HostRequest → Act σ (List (List UInt8) × Bool)
  | [] => pure ([], true)
  | request :: rest => do
    let reply ← request.answer service
    match Frame.encode (Parcel.toText reply) with
    | .error _ => pure ([], false)
    | .ok frame =>
      let (frames, goesOn) ← HostRequest.answerAll service rest
      pure (frame :: frames, goesOn)

/-- What serving a stream comes to. -/
structure Served where
  /-- The frames of the answers. -/
  answers : List (List UInt8)
  /-- The bytes that wait for more; none when the serving has ended. -/
  left : Option (List UInt8)
deriving Repr

/-- Serves what has arrived on a connection. -/
def serve {σ : Type} (service : Service σ) (stream : List UInt8) : Act σ Served := do
  let (requests, ending) := HostRequest.scan stream
  let (answers, goesOn) ← HostRequest.answerAll service requests
  pure ⟨answers,
    match goesOn, ending with
    | true, .open rest => some rest
    | _, _ => none⟩

end Switchboard
