import Dictation.Session

namespace Dictation.Session

/-- A session takes utterances in while it listens and its segment is open. -/
def Hears (s : Session) : Prop := s.listening = true ∧ s.ignoring = false

variable {s : Session} {text before : Text} {final : Bool} {r : Rule}

theorem transcript_of_pending (hp : s.pending = []) : s.transcript text = text.trim := by
  rw [transcript, hp]
  rfl

theorem hear_of_not_hears (hs : ¬s.Hears) : s.hear text final = (s, .ok .ignored) := by
  have hclosed : (!s.listening || s.ignoring) = true := by
    simpa [Hears, Classical.or_iff_not_imp_left] using hs
  rw [hear, if_pos hclosed]

section Hears

variable (hs : s.Hears)

include hs

theorem hear_of_process (hr : s.rules.route (s.transcript text) = .process before) :
    s.hear text final = (s.endSegment, .ok (.process before.trim)) := by
  simp [hear, hs.1, hs.2, hr]

theorem hear_of_execute (hr : s.rules.route (s.transcript text) = .execute before) :
    s.hear text final = (s.endSegment, .ok (.execute before.trim)) := by
  simp [hear, hs.1, hs.2, hr]

theorem hear_of_discard (hr : s.rules.route (s.transcript text) = .discard) :
    s.hear text final = (s.endSegment, .ok .discarded) := by
  simp [hear, hs.1, hs.2, hr, discard]

theorem hear_of_rule (hr : s.rules.route (s.transcript text) = .rule r) :
    s.hear text final = s.endSegment.apply (some r) (s.transcript text).trim := by
  simp [hear, hs.1, hs.2, hr]

theorem hear_interim_of_dictation (hr : s.rules.route (s.transcript text) = .dictation) :
    s.hear text false = (s, .ok (.pending (s.transcript text))) := by
  simp [hear, hs.1, hs.2, hr]

theorem hear_final_of_autoProcess (hr : s.rules.route (s.transcript text) = .dictation)
    (ha : s.autoProcess = true) :
    s.hear text true = { s with pending := [] }.process (s.transcript text) := by
  simp [hear, hs.1, hs.2, hr, ha]

theorem hear_final_of_waits (hr : s.rules.route (s.transcript text) = .dictation)
    (ha : s.autoProcess = false) :
    s.hear text true =
      ({ s with pending := s.transcript text }, .ok (.pending (s.transcript text))) := by
  simp [hear, hs.1, hs.2, hr, ha]

end Hears

end Dictation.Session
