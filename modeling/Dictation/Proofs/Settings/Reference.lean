import Dictation.Settings
import Dictation.Proofs.Text.Split

namespace Dictation.Settings

variable {s t before name after : Text} {names : List Text}

def reference (name : Text) : Text := opening ++ name ++ ['\x7d']

section First

theorem opening_ne_nil : opening ≠ [] := List.cons_ne_nil _ _

theorem opening_infix_append_iff : opening <:+: s ++ t ↔
    opening <:+: s ∨ opening <:+: t ∨ s.getLast? = some '$' ∧ t.head? = some '\x7b' := by
  rw [List.infix_append_iff]
  constructor
  · rintro (h | h | ⟨l, r, hlr, ⟨x, rfl⟩, ⟨y, rfl⟩⟩)
    · exact .inl h
    · exact .inr (.inl h)
    · rcases l with _ | ⟨c, _ | ⟨d, l⟩⟩
      · exact .inr (.inl ⟨[], y, by rw [List.nil_append, hlr, List.nil_append]⟩)
      · obtain ⟨rfl, rfl⟩ := List.cons_eq_cons.1 hlr
        exact .inr (.inr ⟨List.getLast?_concat, rfl⟩)
      · obtain ⟨rfl, hd⟩ := List.cons_eq_cons.1 hlr
        obtain ⟨rfl, hnil⟩ := List.cons_eq_cons.1 hd
        obtain ⟨rfl, rfl⟩ := List.append_eq_nil_iff.1 hnil.symm
        exact .inl ⟨x, [], List.append_nil _⟩
  · rintro (h | h | ⟨hs, ht⟩)
    · exact .inl h
    · exact .inr (.inl h)
    · obtain ⟨x, rfl⟩ := List.getLast?_eq_some_iff.1 hs
      obtain ⟨y, rfl⟩ := List.head?_eq_some_iff.1 ht
      exact .inr (.inr ⟨['$'], ['\x7b'], rfl, ⟨x, rfl⟩, ⟨y, rfl⟩⟩)

theorem not_opening_infix_nil : ¬opening <:+: [] := fun h => opening_ne_nil (List.infix_nil.1 h)

theorem firstVariable?_append (h : ¬opening <:+: before) (t : Text) :
    firstVariable? (before ++ opening ++ t) =
      (t.splitOnce ['\x7d']).map fun (name, after) => (before, name, after) := by
  have hsplit : (before ++ opening ++ t).splitOnce opening = some (before, t) := by
    apply Text.splitOnce_append opening_ne_nil
    rintro u v rfl hv ⟨r, hr⟩
    rcases v with _ | ⟨c, _ | ⟨d, v⟩⟩
    · exact hv rfl
    · exact absurd (List.cons_eq_cons.1 (List.cons_eq_cons.1 hr).2).1 (by decide)
    · obtain ⟨rfl, htail⟩ := List.cons_eq_cons.1 hr
      obtain ⟨rfl, -⟩ := List.cons_eq_cons.1 htail
      exact h ⟨u, v, List.append_assoc u _ v⟩
  rw [firstVariable?, hsplit]
  rfl

theorem append_reference_append (before name after : Text) :
    before ++ reference name ++ after = before ++ opening ++ (name ++ '\x7d' :: after) := by
  simp [reference]

theorem firstVariable?_eq_some_iff : firstVariable? t = some (before, name, after) ↔
    ¬opening <:+: before ∧ '\x7d' ∉ name ∧ t = before ++ reference name ++ after := by
  constructor
  · intro h
    obtain ⟨⟨b, r⟩, hopen, h⟩ := Option.bind_eq_some_iff.1 h
    obtain ⟨⟨n, a⟩, hclose, h⟩ := Option.map_eq_some_iff.1 h
    cases h
    obtain ⟨rfl, hb⟩ := Text.of_splitOnce_eq_some opening_ne_nil hopen
    obtain ⟨hn, rfl⟩ := Text.splitOnce_singleton_eq_some_iff.1 hclose
    exact ⟨hb, hn, (append_reference_append _ _ _).symm⟩
  · rintro ⟨hb, hn, rfl⟩
    rw [append_reference_append, firstVariable?_append hb, Text.splitOnce_append_cons hn]
    rfl

theorem firstVariable?_of_not_opening (h : ¬opening <:+: t) : firstVariable? t = none := by
  rw [firstVariable?, (Text.splitOnce_eq_none_iff opening_ne_nil).2 h, Option.bind_none]

theorem ne_of_firstVariable?_eq_none (h : firstVariable? t = none) (before name after : Text) :
    t ≠ before ++ reference name ++ after := by
  rintro rfl
  -- The first opening may come earlier than the given one, and is then closed by
  -- the same brace if by no other.
  obtain ⟨⟨b, r⟩, hopen⟩ := Option.ne_none_iff_exists'.1
    (mt (Text.splitOnce_eq_none_iff opening_ne_nil).1
      (not_not_intro (List.suffix_append before opening).isInfix))
  obtain ⟨heq, hb⟩ := Text.of_splitOnce_eq_some opening_ne_nil hopen
  rw [append_reference_append, heq, List.append_assoc _ r, firstVariable?_append hb,
    Option.map_eq_none_iff, Text.splitOnce_singleton_eq_none_iff] at h
  exact h (by simp)

end First

section Dollars

/-- How many dollars a text ends with. In front of a brace each of them would open a variable. -/
def dollars (t : Text) : Nat := (t.reverse.takeWhile (· == '$')).length

theorem dollars_concat (t : Text) (c : Char) :
    dollars (t ++ [c]) = if c = '$' then dollars t + 1 else 0 := by
  rw [dollars, dollars, List.reverse_concat, List.takeWhile_cons]
  by_cases h : c = '$' <;> simp [h]

theorem dollars_append_le (s t : Text) : dollars (s ++ t) ≤ dollars s + t.count '$' := by
  induction t using List.reverseRecOn with
  | nil => simp
  | append_singleton t c ih =>
    rw [← List.append_assoc, dollars_concat, List.count_append]
    split_ifs with h
    · rw [h, List.count_singleton_self]
      omega
    · exact Nat.zero_le _

/-- A text that holds no opening, and does not end in half of one. -/
def Plain (t : Text) : Prop := ¬opening <:+: t ∧ t.getLast? ≠ some '$'

instance (t : Text) : Decidable (Plain t) := inferInstanceAs (Decidable (_ ∧ _))

theorem plain_nil : Plain [] := ⟨not_opening_infix_nil, nofun⟩

theorem Plain.append (hs : Plain s) (ht : Plain t) : Plain (s ++ t) := by
  refine ⟨fun h => ?_, fun h => ?_⟩
  · rcases opening_infix_append_iff.1 h with h | h | ⟨h, -⟩
    · exact hs.1 h
    · exact ht.1 h
    · exact hs.2 h
  · rcases List.eq_nil_or_concat t with rfl | ⟨t, c, rfl⟩
    · exact hs.2 (List.append_nil s ▸ h)
    · rw [List.concat_eq_append, ← List.append_assoc, List.getLast?_concat] at h
      exact ht.2 (by rw [List.concat_eq_append, List.getLast?_concat, h])

theorem Plain.of_append (h : Plain (s ++ t)) : Plain t := by
  refine ⟨fun ht => h.1 (List.infix_append_of_infix_right ht), fun ht => h.2 ?_⟩
  obtain ⟨x, rfl⟩ := List.getLast?_eq_some_iff.1 ht
  rw [← List.append_assoc, List.getLast?_concat]

theorem dollars_append_of_plain (ht : Plain t) (s : Text) : dollars (s ++ t) ≤ dollars s := by
  rcases List.eq_nil_or_concat t with rfl | ⟨t, c, rfl⟩
  · rw [List.append_nil]
  · have hc : c ≠ '$' := by simpa using ht.2
    rw [List.concat_eq_append, ← List.append_assoc, dollars_concat, if_neg hc]
    exact Nat.zero_le _

end Dollars

section Spelt

/-- A text made of plain parts and whole variables with these names, in order. -/
inductive Spelt : Text → List Text → Prop
  | plain {t : Text} (h : Plain t) : Spelt t []
  | reference {before name after : Text} {names : List Text} (hbefore : Plain before)
      (hname : '\x7d' ∉ name)
      (hafter : Spelt after names) : Spelt (before ++ reference name ++ after) (name :: names)

theorem spelt_reference (h : '\x7d' ∉ name) : Spelt (reference name) [name] := by
  have := Spelt.reference plain_nil h (.plain plain_nil)
  rwa [List.nil_append, List.append_nil] at this

theorem Spelt.plain_append (hs : Plain s) (ht : Spelt t names) : Spelt (s ++ t) names := by
  cases ht with
  | plain h => exact .plain (hs.append h)
  | reference hbefore hname hafter =>
    rw [← List.append_assoc, ← List.append_assoc]
    exact .reference (hs.append hbefore) hname hafter

theorem Spelt.append {ms ns : List Text} (hs : Spelt s ms) (ht : Spelt t ns) :
    Spelt (s ++ t) (ms ++ ns) := by
  induction hs with
  | plain h => exact ht.plain_append h
  | reference hbefore hname _ ih =>
    rw [List.append_assoc]
    exact .reference hbefore hname ih

theorem Spelt.after_brace (h : Spelt (s ++ '\x7d' :: t) names) (hs : '\x7d' ∉ s) :
    ∃ ns, Spelt t ns := by
  have hsplit := Text.splitOnce_append_cons hs t
  generalize s ++ '\x7d' :: t = w at h hsplit
  cases h with
  | plain h =>
    obtain ⟨-, rfl⟩ := Text.splitOnce_singleton_eq_some_iff.1 hsplit
    rw [← List.singleton_append, ← List.append_assoc] at h
    exact ⟨[], .plain h.of_append⟩
  | @reference before name after names hbefore hname hafter =>
    by_cases hb : '\x7d' ∈ before
    · obtain ⟨x, y, rfl, hx⟩ := List.eq_append_cons_of_mem hb
      rw [List.append_assoc, List.append_assoc, List.cons_append,
        Text.splitOnce_append_cons hx] at hsplit
      cases hsplit
      rw [← List.singleton_append, ← List.append_assoc] at hbefore
      have := Spelt.reference hbefore.of_append hname hafter
      exact ⟨_, by rwa [List.append_assoc] at this⟩
    · have hfirst : '\x7d' ∉ before ++ opening ++ name := by simp [hb, hname, opening]
      rw [append_reference_append, ← List.append_assoc, Text.splitOnce_append_cons hfirst] at hsplit
      cases hsplit
      exact ⟨_, hafter⟩

/-- What follows the first closing brace of a text that begins with whole variables begins with
whole variables. -/
theorem Spelt.exists_after_brace (hs : Spelt s names) (h : s ++ after = name ++ '\x7d' :: t)
    (hname : '\x7d' ∉ name) :
    ∃ s' ns after', t = s' ++ after' ∧ Spelt s' ns ∧ after' <:+ after := by
  rcases List.append_eq_append_iff.1 h with ⟨x, -, rfl⟩ | ⟨x, rfl, hx⟩
  · exact ⟨[], [], t, rfl, .plain plain_nil, ⟨x ++ ['\x7d'], by simp⟩⟩
  · rcases x with _ | ⟨c, x⟩
    · exact ⟨[], [], t, rfl, .plain plain_nil, ⟨['\x7d'], hx⟩⟩
    · obtain ⟨rfl, rfl⟩ := List.cons_eq_cons.1 hx
      obtain ⟨ns, hns⟩ := hs.after_brace hname
      exact ⟨x, ns, after, rfl, hns, List.suffix_rfl⟩

end Spelt

end Dictation.Settings
