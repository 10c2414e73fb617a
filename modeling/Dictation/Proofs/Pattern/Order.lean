import Dictation.Proofs.Pattern.Search

namespace Dictation.Pattern

namespace Trial

variable {k point : Nat} {first : Bool} {a b : Trial}

/-- Where the trial finds a match, the match ends at position `k` or later. -/
def EndsFrom (k : Nat) (a : Trial) : Prop := ∀ tried r, a tried = .ok r → k ≤ r.position

theorem endsFrom_fail : EndsFrom k .fail := nofun

theorem endsFrom_ok {r : Progress} (hr : k ≤ r.position) : EndsFrom k fun _ => .ok r := by
  rintro tried _ ⟨⟩
  exact hr

theorem EndsFrom.orElse (ha : a.EndsFrom k) (hb : b.EndsFrom k) : (a.orElse b).EndsFrom k := by
  intro tried r h
  rw [Trial.orElse] at h
  split at h
  · next s hs =>
    cases h
    exact ha _ _ hs
  · exact hb _ _ h

theorem EndsFrom.prefer (ha : a.EndsFrom k) (hb : b.EndsFrom k) :
    (Trial.prefer first a b).EndsFrom k := by
  cases first with
  | true => exact ha.orElse hb
  | false => exact hb.orElse ha

theorem EndsFrom.once (ha : a.EndsFrom k) : (Trial.once point a).EndsFrom k := by
  intro tried r h
  rw [Trial.once] at h
  split at h
  · cases h
  · exact ha _ _ h

theorem EndsFrom.moved (ha : a.EndsFrom k) : a.moved.EndsFrom k := by
  intro tried r h
  rw [Trial.moved] at h
  split at h
  · next s hs =>
    cases h
    exact ha _ _ hs
  · cases h

end Trial

section Forward

variable {n k point : Nat} {greedy : Bool} {next leave : Progress → Trial} {s : Progress}

theorem rounds_endsFrom {body : Progress → (Progress → Trial) → Trial}
    (hbody : ∀ s next, (∀ r : Progress, s.position ≤ r.position → (next r).EndsFrom k) →
      (body s next).EndsFrom k)
    (hleave : ∀ r : Progress, s.position ≤ r.position → (leave r).EndsFrom k) :
    (rounds body point greedy leave n s).EndsFrom k := by
  induction n generalizing s with
  | zero => exact Trial.endsFrom_fail
  | succ n ih =>
    have hround : (body s (rounds body point greedy leave n)).EndsFrom k :=
      hbody s _ fun r hr => ih fun r' hr' => hleave r' (hr.trans hr')
    exact (hround.prefer (hleave s le_rfl)).once

theorem explore_endsFrom (a : Plan)
    (hnext : ∀ r : Progress, s.position ≤ r.position → (next r).EndsFrom k) :
    (explore n a point s next).EndsFrom k := by
  induction a generalizing point s next with
  | skip => exact hnext s le_rfl
  | step good =>
    rw [explore]
    split
    · exact (hnext s.advance (Nat.le_succ _)).moved
    · exact Trial.endsFrom_fail
  | place good =>
    rw [explore]
    split
    · exact hnext s le_rfl
    · exact Trial.endsFrom_fail
  | seq a b iha ihb => exact iha fun r hr => ihb fun r' hr' => hnext r' (hr.trans hr')
  | choose first a b iha ihb => exact ((iha hnext).orElse (ihb hnext)).once
  | opt greedy inside outside a ih => exact ((ih hnext).prefer (hnext s le_rfl)).once
  | loop greedy inside outside a ih => exact rounds_endsFrom (fun _ _ => ih) hnext
  | again greedy inside outside a ih =>
    exact ih fun r hr => rounds_endsFrom (fun _ _ => ih) fun r' hr' => hnext r' (hr.trans hr')
  | cycle greedy inside outside a ih =>
    exact ih fun r hr => rounds_endsFrom (fun _ _ => ih) fun r' hr' => hnext r' (hr.trans hr')
  | group i a ih => exact ih fun r hr => hnext (r.record i s.position) hr

theorem position_le_repeatWhile {test : Nat → Bool} {f : Progress → Progress}
    (hf : ∀ s, s.position ≤ (f s).position) : s.position ≤ (repeatWhile test f n s).position := by
  induction n generalizing s with
  | zero => exact le_rfl
  | succ n ih =>
    rw [repeatWhile]
    split
    · exact (hf s).trans ih
    · exact le_rfl

theorem position_le_follow (a : Plan) : s.position ≤ (follow n a s).position := by
  induction a generalizing s with
  | skip => exact le_rfl
  | step good => exact Nat.le_succ _
  | place good => exact le_rfl
  | seq a b iha ihb => exact iha.trans ihb
  | choose first a b iha ihb =>
    rw [follow]
    split
    · exact iha
    · exact ihb
  | opt greedy inside outside a ih =>
    rw [follow]
    split
    · exact ih
    · exact le_rfl
  | loop greedy inside outside a ih => exact position_le_repeatWhile fun _ => ih
  | again greedy inside outside a ih => exact ih.trans (position_le_repeatWhile fun _ => ih)
  | cycle greedy inside outside a =>
    rw [follow]
    split
    · next r hr =>
      refine explore_endsFrom _ (fun r' hr' => ?_) _ _ hr
      split
      · exact Trial.endsFrom_ok hr'
      · exact Trial.endsFrom_fail
    · exact le_rfl
  | group i a ih => exact ih

end Forward

section Order

variable {p : Pattern} {t : Text} {f : Match → Text} {search : Search} {m : Match} {ms : List Match}
  {n i : Nat} {last : Option Nat}

/-- Matches one after the other, the first one at position `i` or later. -/
def InOrder : Nat → List Match → Prop
  | _, [] => True
  | i, m :: ms => i ≤ m.start ∧ m.start ≤ m.stop ∧ InOrder m.stop ms

theorem Search.forward_of_first? (h : search.first? i = some m) :
    i ≤ m.start ∧ m.start ≤ m.stop := by
  obtain ⟨start, hstart, rfl⟩ := Option.map_eq_some_iff.1 h
  exact ⟨Positions.le_of_leastFrom_eq_some hstart,
    position_le_follow (s := ⟨start, []⟩) search.plan⟩

theorem Search.forward_of_next? (h : search.next? i last = some m) :
    i ≤ m.start ∧ m.start ≤ m.stop := by
  rw [Search.next?] at h
  split at h
  · cases h
  · next found hfound =>
    split at h
    · obtain ⟨hstart, hstop⟩ := forward_of_first? h
      exact ⟨(Nat.le_succ i).trans hstart, hstop⟩
    · cases h
      exact forward_of_first? hfound

theorem Search.inOrder_matchesFrom : InOrder i (search.matchesFrom n i last) := by
  induction n generalizing i last with
  | zero => trivial
  | succ n ih =>
    rw [matchesFrom]
    split
    · trivial
    · next m hm =>
      obtain ⟨hstart, hstop⟩ := forward_of_next? hm
      exact ⟨hstart, hstop, ih⟩

theorem inOrder_findAll (p : Pattern) (t : Text) : InOrder 0 (p.findAll t) :=
  Search.inOrder_matchesFrom

theorem take_append_drop_of_le {j : Nat} (t : Text) (hij : i ≤ j) :
    (t.drop i).take (j - i) ++ t.drop j = t.drop i := by
  have hrest : (t.drop i).drop (j - i) = t.drop j := by rw [List.drop_drop, Nat.add_sub_cancel' hij]
  rw [← hrest, List.take_append_drop]

theorem substitute_of_inOrder (horder : InOrder i ms) (hf : ∀ m ∈ ms, m.group? t 0 = some (f m)) :
    substitute t f i ms = t.drop i := by
  induction ms generalizing i with
  | nil => rfl
  | cons m ms ih =>
    obtain ⟨hstart, hstop, hrest⟩ := horder
    obtain ⟨hm, hms⟩ := List.forall_mem_cons.1 hf
    have hwhole : (t.drop m.start).take (m.stop - m.start) = f m := Option.some.inj hm
    rw [substitute, ih hrest hms, ← hwhole, List.append_assoc, take_append_drop_of_le t hstop,
      take_append_drop_of_le t hstart]

/-- Exchanging every match for itself changes nothing, be matches empty or not. -/
theorem replaceAll_of_whole_match (hf : ∀ m ∈ p.findAll t, m.group? t 0 = some (f m)) :
    p.replaceAll t f = t :=
  substitute_of_inOrder (inOrder_findAll p t) hf

end Order

end Dictation.Pattern
