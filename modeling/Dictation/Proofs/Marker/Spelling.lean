import Dictation.Proofs.Marker.Canonical
import Dictation.Proofs.Text.Trim
import Dictation.Session

namespace Dictation.Marker

open Character

variable {c : Char} {t u : Text}

/-- The second text is the first with a selector put after every marker that has none. -/
inductive Respelt : Text → Text → Prop
  | nil : Respelt [] []
  | full {c : Char} {t u : Text} (hc : IsMarker c) (h : Respelt t u) :
    Respelt (c :: selector :: t) (c :: selector :: u)
  | bare {c : Char} {t u : Text} (hc : IsMarker c) (ht : t.head? ≠ some selector)
      (h : Respelt t u) :
    Respelt (c :: t) (c :: selector :: u)
  | other {c : Char} {t u : Text} (hc : ¬IsMarker c) (h : Respelt t u) : Respelt (c :: t) (c :: u)

section Respelt

theorem not_isMarker_selector : ¬IsMarker selector := by decide

theorem dropSelector_of_head? (ht : t.head? ≠ some selector) : dropSelector t = t := by
  cases t with
  | nil => rfl
  | cons c t => rw [dropSelector, if_neg fun hc => ht (congrArg some hc)]

theorem respelt_canonical (t : Text) : Respelt t (canonical t) := by
  induction t using induction_on_markers with
  | nil => exact .nil
  | marker c t hc ih =>
    rw [canonical_cons_of_isMarker hc]
    by_cases ht : t.head? = some selector
    · obtain ⟨r, rfl⟩ := List.head?_eq_some_iff.1 ht
      rw [dropSelector, if_pos rfl] at ih ⊢
      exact .full hc ih
    · rw [dropSelector_of_head? ht] at ih ⊢
      exact .bare hc ht ih
  | other c t hc ih =>
    rw [canonical_cons_of_not_isMarker hc]
    exact .other hc ih

theorem Respelt.eq_canonical (h : Respelt t u) : u = canonical t := by
  induction h with
  | nil => rfl
  | full hc _ ih => rw [canonical_cons_of_isMarker hc, dropSelector, if_pos rfl, ih]
  | bare hc ht _ ih => rw [canonical_cons_of_isMarker hc, dropSelector_of_head? ht, ih]
  | other hc _ ih => rw [canonical_cons_of_not_isMarker hc, ih]

theorem respelt_iff : Respelt t u ↔ u = canonical t :=
  ⟨Respelt.eq_canonical, fun h => h ▸ respelt_canonical t⟩

theorem Respelt.head?_of_isMarker (h : Respelt t u) {a b : Text} (hu : u = a ++ c :: b)
    (hc : IsMarker c) : b.head? = some selector := by
  -- a marker that was written stands before its selector, and a selector is no marker
  have hwritten {d : Char} {u : Text} (ih : ∀ a, u = a ++ c :: b → b.head? = some selector)
    {a : Text}
      (hu : d :: selector :: u = a ++ c :: b) : b.head? = some selector := by
    match a, hu with
    | [], hu =>
      rw [← (List.cons.inj hu).2]
      rfl
    | [_], hu =>
      obtain rfl := (List.cons.inj (List.cons.inj hu).2).1
      exact absurd hc not_isMarker_selector
    | _ :: _ :: a, hu => exact ih a (List.cons.inj (List.cons.inj hu).2).2
  induction h generalizing a with
  | nil => simp at hu
  | full _ _ ih => exact hwritten (fun _ => ih) hu
  | bare _ _ _ ih => exact hwritten (fun _ => ih) hu
  | other hd _ ih =>
    cases a with
    | nil =>
      obtain rfl := (List.cons.inj hu).1
      exact absurd hc hd
    | cons e a => exact ih (List.cons.inj hu).2

theorem getLast?_cons_of_getLast? {d : Char} (h : t.getLast? = some c) :
    (d :: t).getLast? = some c := by
  rw [List.getLast?_cons, h, Option.getD_some]

theorem Respelt.getLast? (h : Respelt t u) (hu : u.getLast? = some c) :
    c = selector ∨ t.getLast? = some c := by
  have hwritten {d : Char} {t t' u : Text}
    (ih : u.getLast? = some c → c = selector ∨ t.getLast? = some c)
      (ht : t.getLast? = some c → t'.getLast? = some c)
        (hu : (d :: selector :: u).getLast? = some c) :
      c = selector ∨ t'.getLast? = some c := by
    cases hl : u.getLast? with
    | none => exact .inl (by simpa [List.getLast?_cons, hl, eq_comm] using hu)
    | some e =>
      obtain rfl : e = c := by simpa [List.getLast?_cons, hl] using hu
      exact (ih hl).imp_right ht
  induction h with
  | nil => cases hu
  | full _ _ ih =>
    exact hwritten ih (fun ht => getLast?_cons_of_getLast? (getLast?_cons_of_getLast? ht)) hu
  | bare _ _ _ ih => exact hwritten ih getLast?_cons_of_getLast? hu
  | @other d t u _ h ih =>
    cases hl : u.getLast? with
    | none =>
      obtain rfl := List.getLast?_eq_none_iff.1 hl
      cases h
      exact .inr hu
    | some e =>
      obtain rfl : e = c := by simpa [List.getLast?_cons, hl] using hu
      exact (ih hl).imp_right getLast?_cons_of_getLast?

end Respelt

section Trim

theorem not_isMarker_of_isBlank (h : isBlank c = true) : ¬IsMarker c := by
  rintro (rfl | rfl) <;> exact absurd h (by decide)

theorem ne_selector_of_isBlank (h : isBlank c = true) : c ≠ selector := by
  rintro rfl
  exact absurd h (by decide)

theorem canonical_append_cons (s : Text) (hc : c ≠ selector) (t : Text) :
    canonical (s ++ c :: t) = canonical s ++ canonical (c :: t) := by
  simp only [canonical_eq_flatMap, tokens_append_cons s hc t, List.flatMap_append]

theorem canonical_trimStart (t : Text) : canonical t.trimStart = (canonical t).trimStart := by
  rw [Text.trimStart, Text.trimStart]
  induction t with
  | nil => rfl
  | cons c t ih =>
    by_cases hc : isBlank c = true
    · rw [canonical_cons_of_not_isMarker (not_isMarker_of_isBlank hc),
        List.dropWhile_cons_of_pos hc, List.dropWhile_cons_of_pos hc, ih]
    · rw [List.dropWhile_cons_of_neg hc]
      by_cases hm : IsMarker c
      · rw [canonical_cons_of_isMarker hm, List.dropWhile_cons_of_neg hc]
      · rw [canonical_cons_of_not_isMarker hm, List.dropWhile_cons_of_neg hc]

theorem canonical_trimEnd (t : Text) : canonical t.trimEnd = (canonical t).trimEnd := by
  rw [Text.trimEnd_eq_rdropWhile, Text.trimEnd_eq_rdropWhile]
  induction t using List.reverseRecOn with
  | nil => rfl
  | append_singleton t c ih =>
    by_cases hc : isBlank c = true
    · rw [canonical_append_cons t (ne_selector_of_isBlank hc),
        canonical_cons_of_not_isMarker (not_isMarker_of_isBlank hc), canonical_nil,
          List.rdropWhile_concat_pos _ _ _ hc,
        List.rdropWhile_concat_pos _ _ _ hc, ih]
    · -- the last character is no blank, and no more is the one that is written last
      rw [List.rdropWhile_concat_neg _ _ _ hc, eq_comm, List.rdropWhile_eq_self_iff]
      intro hne
      rcases (respelt_canonical (t ++ [c])).getLast? (List.getLast?_eq_some_getLast hne) with h | h
      · rw [h]
        decide
      · rw [List.getLast?_concat, Option.some.injEq] at h
        rwa [← h]

theorem canonical_trim (t : Text) : canonical t.trim = (canonical t).trim := by
  rw [Text.trim, canonical_trimEnd, canonical_trimStart, Text.trim]

end Trim

section Reading

theorem strip_canonical (t : Text) : strip (canonical t) = strip t := by
  rw [strip, tokens_canonical, strip]

theorem recover_canonical (t : Text) (line : Nat) :
    recover (canonical t) line = recover t line := by
  simp only [recover, untag?, violation?, strip_canonical, tokens_canonical]

/-- Two texts that differ in the spelling of their markers are read as the same once they are
trimmed. -/
theorem recover_trim_of_canonical_eq (h : canonical t = canonical u) (line : Nat) :
    recover t.trim line = recover u.trim line := by
  rw [← recover_canonical t.trim, canonical_trim, h, ← canonical_trim, recover_canonical]

end Reading

section Spelling

open Session (Request)

theorem execute_of_canonical_eq {s : Session} {f g : Request → Except Fault Text}
    {instruction : Text} (h : (f ⟨s.prompt, tag s.document, instruction⟩).map canonical =
      (g ⟨s.prompt, tag s.document, instruction⟩).map canonical) :
        s.execute f instruction = s.execute g instruction := by
  rw [Session.execute, Session.execute]
  cases hf : f ⟨s.prompt, tag s.document, instruction⟩ with
  | error e =>
    rw [hf] at h
    cases hg : g ⟨s.prompt, tag s.document, instruction⟩ with
    | error e' =>
      rw [hg] at h
      rw [Except.error.inj h]
    | ok reply =>
      rw [hg] at h
      cases h
  | ok reply =>
    rw [hf] at h
    cases hg : g ⟨s.prompt, tag s.document, instruction⟩ with
    | error e =>
      rw [hg] at h
      cases h
    | ok reply' =>
      rw [hg] at h
      dsimp only
      rw [recover_trim_of_canonical_eq (Except.ok.inj h)]

/-- The canonical spelling is canonical, has a selector after every marker, differs from the text in
such selectors alone, and is read as the text. A replacement rule in canonical spelling is the same
operation, or is refused with the same fault, and the spelling of the markers in a reply makes no
difference to a session. -/
theorem spelling_unseen :
    (∀ t : Text, canonical (canonical t) = canonical t ∧ (∀ u, Respelt t u ↔ u = canonical t) ∧
      (∀ a c b, canonical t = a ++ c :: b → IsMarker c → b.head? = some selector) ∧
      strip (canonical t) = strip t ∧ ∀ line, recover (canonical t) line = recover t line) ∧
    (∀ trigger pattern template line,
      (Rule.mk trigger (.replacement (canonical pattern) (canonical template)) line).operation =
        (Rule.mk trigger (.replacement pattern template) line).operation) ∧
    ∀ (s : Session) (f g : Request → Except Fault Text) (instruction : Text),
      (∀ q, (f q).map canonical = (g q).map canonical) →
        s.execute f instruction = s.execute g instruction := by
  refine ⟨fun t => ⟨canonical_canonical t, fun u => respelt_iff, ?_, strip_canonical t,
    recover_canonical t⟩, ?_, ?_⟩
  · intro a c b hb hc
    exact (respelt_canonical t).head?_of_isMarker hb hc
  · intro trigger pattern template line
    simp only [Rule.operation, Operation.read?, canonical_canonical]
  · intro s f g instruction hfg
    exact execute_of_canonical_eq (hfg _)

theorem spelling_unseen_in_reply :
    let s := Session.start .empty (.atEnd ['a'])
    let f : Request → Except Fault Text := fun _ =>
      .ok [' ', startBase, 'b', stopBase, selector, '\n']
    let g : Request → Except Fault Text := fun _ =>
      .ok [' ', startBase, selector, 'b', stopBase, '\n']
    (canonical ['a', startBase] = ['a'] ++ startBase :: [selector] ∧ IsMarker startBase ∧
      [selector].head? = some selector) ∧
    (∀ q, (f q).map canonical = (g q).map canonical) ∧ s.execute f ['i'] = s.execute g ['i'] := by
  intro s f g
  have hcanonical : canonical ['a', startBase] = ['a'] ++ startBase :: [selector] := by decide
  have hfg : ∀ q, (f q).map canonical = (g q).map canonical := fun _ =>
    congrArg Except.ok (by decide)
  have hmarker : IsMarker startBase := .inl rfl
  exact ⟨⟨hcanonical, hmarker, (spelling_unseen.1 ['a', startBase]).2.2.1 _ _ _ hcanonical hmarker⟩,
    hfg, spelling_unseen.2.2 s f g ['i'] hfg⟩

end Spelling

end Dictation.Marker
