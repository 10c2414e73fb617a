import Dictation.Character.Blank
import Dictation.Marker
import Dictation.Proofs.Marker.Tokens
import Dictation.Proofs.Pattern.Following
import Mathlib.Data.List.DropRight

namespace Dictation.BuiltIn

open Marker (Unmarked startBase stopBase selector startMark stopMark)
open Pattern

section Sets

def anything : CharSet := fun c => Character.isBlank c || !Character.isBlank c

def inLine : CharSet := fun c => !(c == '\n')

@[simp] theorem anything_eq_true (c : Char) : anything c = true := Bool.or_not_self _

theorem inLine_iff {c : Char} : inLine c = true ↔ c ≠ '\n' := by simp [inLine]

theorem inLine_of_notMem {t : Text} (ht : '\n' ∉ t) : ∀ c ∈ t, inLine c = true :=
  fun _ hc => inLine_iff.2 (ne_of_mem_of_not_mem hc ht)

theorem notMem_of_inLine {t : Text} (ht : ∀ c ∈ t, inLine c = true) : '\n' ∉ t :=
  fun h => inLine_iff.1 (ht _ h) rfl

def run (s : CharSet) : Pattern := .star true (.one s)

end Sets

section Selection

variable {last : Pattern} {a b c u v x y : Text} {captures : List Capture}

def selected : Option Nat → Pattern
  | none => .star false (.one anything)
  | some i => .group i (.star false (.one anything))

def selection (index : Option Nat) (last : Pattern) : Pattern :=
  .seq (.one (· == startBase))
    (.seq (.one (· == selector)) (.seq (selected index) (.seq (.one (· == stopBase)) last)))

def selectedCaptures (index : Option Nat) (a b : Text) : List Capture :=
  (index.map fun i => ⟨i, a ++ startMark, b⟩).toList

theorem takes_selected (index : Option Nat) {k : Pattern}
    (hk : FitsOnly k (a ++ startMark ++ b) v) :
    Takes (selected index) k (a ++ startMark) b v (selectedCaptures index a b) := by
  have hlazy : Takes (.star false (.one anything)) k (a ++ startMark) b v [] :=
    takes_star_of_only (fun c _ => anything_eq_true c) hk
  cases index with
  | none => exact hlazy
  | some i => exact hlazy.group i

theorem takes_selection (index : Option Nat) (hd : Unmarked (a ++ b ++ (u ++ v)))
    (hlast : Takes last .empty (a ++ startMark ++ b ++ [stopBase]) (selector :: u) v captures) :
    Takes (selection index last) .empty a (startMark ++ b ++ stopMark ++ u) v
      (captures ++ selectedCaptures index a b) := by
  obtain ⟨ha, hb, hu⟩ := Marker.unmarked_append_append.1 hd
  have hstop : Takes (.seq (.one (· == stopBase)) last) .empty (a ++ startMark ++ b)
      (stopMark ++ u) v captures := by
    have hseq := (takes_char stopBase).seq hlast
    rw [List.append_nil] at hseq
    exact hseq
  have honly : FitsOnly (.seq (.seq (.one (· == stopBase)) last) .empty) (a ++ startMark ++ b)
      (stopMark ++ u ++ v) := by
    -- the end marker's letter stands once in the text, so it settles where the selected text ends
    refine FitsOnly.congr ?_ fun x y => fits_seq_seq_iff
    refine fitsOnly_seq_one (y := selector :: u ++ v) ?_ ?_ (hlast.fits fits_empty)
    · have hmark : stopBase ∉ startMark := by decide
      simp [ha.2.1, hmark, hb.2.1]
    · have hne : stopBase ≠ selector := by decide
      simpa [hne] using hu.2.1
  have hmiddle := (takes_selected index honly).seq hstop
  have hsplit : a ++ startMark = a ++ [startBase] ++ [selector] := by simp [startMark]
  rw [hsplit] at hmiddle
  have hall := (takes_char startBase).seq ((takes_char selector).seq hmiddle)
  rw [List.append_nil, List.append_nil] at hall
  rw [List.append_assoc _ stopMark u, List.append_assoc startMark]
  exact hall

theorem of_fits_selection {index : Option Nat} (hd : Unmarked (a ++ b ++ c))
    (htext : x ++ y = a ++ (startMark ++ b ++ stopMark ++ c))
    (h : Fits (.seq (selection index last) .empty) x y) :
    x = a ∧ Fits (.seq last .empty) (a ++ startMark ++ b ++ [stopBase]) (selector :: c) := by
  obtain ⟨ha, hb, hc⟩ := Marker.unmarked_append_append.1 hd
  have hstart : startBase ∉ selector :: (b ++ stopMark ++ c) := by
    have hne : startBase ≠ selector := by decide
    have hmark : startBase ∉ stopMark := by decide
    simp [hne, hb.1, hmark, hc.1]
  have hstop : stopBase ∉ selector :: c := by
    have hne : stopBase ≠ selector := by decide
    simp [hne, hc.2.1]
  -- the letter of each marker stands once in the text, so a match has it where the text has it
  obtain ⟨_, rfl, hselector⟩ := fits_seq_char_iff.1 (fits_seq_seq_iff.1 h)
  obtain ⟨rfl, -, rfl⟩ := (List.append_cons_inj_of_notMem ha.1 hstart).1 htext.symm
  obtain ⟨_, hrest, hselected⟩ := fits_seq_char_iff.1 (fits_seq_seq_iff.1 hselector)
  obtain ⟨u, _, rfl, -, hend⟩ := fits_seq_iff.1 (fits_seq_seq_iff.1 hselected)
  obtain ⟨v, rfl, hlast⟩ := fits_seq_char_iff.1 (fits_seq_seq_iff.1 hend)
  have hsplit : b ++ stopBase :: (selector :: c) = u ++ stopBase :: v := by
    rw [← (List.cons.inj hrest).2, List.append_assoc]
    rfl
  obtain ⟨rfl, -, rfl⟩ := (List.append_cons_inj_of_notMem hb.2.1 hstop).1 hsplit
  refine ⟨rfl, ?_⟩
  rwa [List.append_assoc a [startBase]] at hlast

theorem fitsOnly_selection {index : Option Nat} (hd : Unmarked (a ++ b ++ c))
    (h : Fits (.seq (selection index last) .empty) a (startMark ++ b ++ stopMark ++ c)) :
    FitsOnly (.seq (selection index last) .empty) a (startMark ++ b ++ stopMark ++ c) where
  fits := h
  only _ _ htext hfits := (of_fits_selection hd htext hfits).1

theorem takes_selection_rest (index : Option Nat) (hd : Unmarked (a ++ b ++ c))
    (hlast : Takes last .empty (a ++ startMark ++ b ++ [stopBase]) (selector :: c) [] captures) :
    Takes (selection index last) .empty a (startMark ++ b ++ stopMark ++ c) []
      (captures ++ selectedCaptures index a b) ∧
      FitsOnly (.seq (selection index last) .empty) a (startMark ++ b ++ stopMark ++ c) := by
  have htakes := takes_selection index (by rwa [List.append_nil]) hlast
  have hfits := htakes.fits fits_empty
  rw [List.append_nil] at hfits
  exact ⟨htakes, fitsOnly_selection hd hfits⟩

def afterStop (q : Pattern) : Pattern := .seq (.one (· == selector)) q

theorem takes_afterStop {k q : Pattern} (hq : Takes q k (x ++ [selector]) u v captures) :
    Takes (afterStop q) k x (selector :: u) v captures := by
  have hseq := (takes_char selector).seq hq
  rwa [List.append_nil] at hseq

theorem takes_rest {k : Pattern} (hk : Fits k (x ++ u) []) : Takes (run anything) k x u [] [] := by
  refine takes_star_greedy (fun c _ => anything_eq_true c) hk ?_
  intro w r hr hne
  exact absurd (List.append_eq_nil_iff.1 hr.symm).1 hne

end Selection

section Line

variable {q : Pattern} {i : Nat} {pre line u v x y : Text} {captures : List Capture}

def StartsLine (t : Text) : Prop := t = [] ∨ ∃ s, t = s ++ ['\n']

theorem startsLine_rdropWhile (t : Text) : StartsLine (t.rdropWhile (· != '\n')) := by
  by_cases hnil : t.rdropWhile (· != '\n') = []
  · exact .inl hnil
  · have hlast : (t.rdropWhile (· != '\n')).getLast hnil = '\n' := by
      simpa using List.rdropWhile_last_not (· != '\n') t hnil
    have hsplit := List.dropLast_append_getLast hnil
    rw [hlast] at hsplit
    exact .inr ⟨_, hsplit.symm⟩

theorem notMem_rtakeWhile (t : Text) : '\n' ∉ t.rtakeWhile (· != '\n') := by
  intro h
  simpa using List.mem_rtakeWhile_imp h

theorem exists_line (t : Text) : ∃ pre line, t = pre ++ line ∧ StartsLine pre ∧ '\n' ∉ line :=
  ⟨_, _, List.rdropWhile_append_rtakeWhile.symm, startsLine_rdropWhile t, notMem_rtakeWhile t⟩

/-- `(^|[\s\S]*\n)` -/
def lineStart : Pattern :=
  .group 1 (.alt (.place .lineStart) (.seq (run anything) (.one (· == '\n'))))

/-- `(^|[\s\S]*\n)([^\n]*)`, the second group having a number, and then `q`. -/
def fromLineStart (i : Nat) (q : Pattern) : Pattern :=
  .seq lineStart (.seq (.group i (run inLine)) q)

theorem fits_line_iff : Fits (.seq (.seq (.group i (run inLine)) q) .empty) x y ↔
    ∃ u v, y = u ++ v ∧ '\n' ∉ u ∧ Fits (.seq q .empty) (x ++ u) v := by
  rw [fits_seq_seq_iff, fits_seq_group_iff, run, fits_seq_star_one_iff]
  constructor
  · rintro ⟨u, v, rfl, hu, hq⟩
    exact ⟨u, v, rfl, notMem_of_inLine hu, hq⟩
  · rintro ⟨u, v, rfl, hu, hq⟩
    exact ⟨u, v, rfl, inLine_of_notMem hu, hq⟩

theorem exists_of_fits_fromLineStart (h : Fits (fromLineStart i q) x y) :
    ∃ u v, y = u ++ v ∧ Fits (.seq q .empty) (x ++ u) v := by
  obtain ⟨u, _, rfl, -, hline⟩ := fits_seq_iff.1 h
  obtain ⟨w, v, rfl, -, hq⟩ := fits_seq_iff.1 hline
  exact ⟨u ++ w, v, (List.append_assoc u w v).symm, fits_seq_empty_iff.2 (by simpa using hq)⟩

theorem fitsOnly_newline {s : Text} (hline : '\n' ∉ line)
    (hq : FitsOnly (.seq q .empty) (s ++ '\n' :: line) v) :
    FitsOnly (.seq (.one (· == '\n')) (.seq (.seq (.group i (run inLine)) q) .empty)) s
      ('\n' :: line ++ v) := by
  have hstar := hq.seq_one_star true (inLine_of_notMem hline) rfl
  refine hstar.congr fun x y => ?_
  simp only [fits_seq_one_iff, fits_seq_seq_iff, fits_seq_group_iff, run]

theorem takes_line_of_only {k : Pattern} (hline : '\n' ∉ line) (hk : FitsOnly k (x ++ line) v) :
    Takes (.group i (run inLine)) k x line v [⟨i, x, line⟩] :=
  (takes_star_of_only (inLine_of_notMem hline) hk).group i

theorem takes_fromLineStart (hpre : StartsLine pre) (hline : '\n' ∉ line)
    (hq : Takes q .empty (pre ++ line) u v captures)
    (honly : FitsOnly (.seq q .empty) (pre ++ line) (u ++ v)) :
    Takes (fromLineStart i q) .empty []
      (pre ++ (line ++ u)) v (captures ++ [⟨i, pre, line⟩, ⟨1, [], pre⟩]) := by
  have hrest := (takes_line_of_only (i := i) hline honly).seq hq
  have hstart : Takes lineStart (.seq (.seq (.group i (run inLine)) q) .empty)
      [] pre (line ++ u ++ v) [⟨1, [], pre⟩] := by
    refine Takes.group 1 ?_
    obtain rfl | ⟨s, rfl⟩ := hpre
    · exact (takes_place rfl).altLeft (hrest.fits fits_empty)
    · refine Takes.altRight ?_ ?_
      · have hlast : FitsOnly (.seq (.one (· == '\n'))
          (.seq (.seq (.group i (run inLine)) q) .empty)) ([] ++ s)
            (['\n'] ++ (line ++ u ++ v)) := by
          have hat := fitsOnly_newline (i := i) hline (List.append_cons s '\n' line ▸ honly)
          rwa [List.cons_append, ← List.append_assoc] at hat
        exact (takes_star_of_only (fun c _ => anything_eq_true c) hlast).seq (takes_char '\n')
      -- from the start of the text the line would have to have the newline before `line` in it
      · intro hfits
        obtain ⟨w, r, hwr, hw, hfits⟩ := fits_line_iff.1 (fits_seq_place_iff.1 hfits).2
        have hplace := honly.only w r (by simp [← hwr]) hfits
        exact hw (by simp [hplace])
  have hall := hstart.seq hrest
  rwa [List.append_assoc] at hall

def EndsLine (t : Text) : Prop := t = [] ∨ ∃ s, t = '\n' :: s

theorem endsLine_dropWhile (t : Text) : EndsLine (t.dropWhile (· != '\n')) := by
  cases h : t.dropWhile (· != '\n') with
  | nil => exact .inl rfl
  | cons c s =>
    have hc : c = '\n' := by
      have hne : t.dropWhile (· != '\n') ≠ [] := h ▸ List.cons_ne_nil c s
      have hhead := List.head_dropWhile_not (· != '\n') hne
      simpa [h] using hhead
    exact .inr ⟨s, congrArg (· :: s) hc⟩

theorem notMem_takeWhile (t : Text) : '\n' ∉ t.takeWhile (· != '\n') := by
  intro h
  simpa using List.mem_takeWhile_imp h

theorem exists_lineEnd (t : Text) : ∃ line post, t = line ++ post ∧ '\n' ∉ line ∧ EndsLine post :=
  ⟨_, _, List.takeWhile_append_dropWhile.symm, notMem_takeWhile t, endsLine_dropWhile t⟩

theorem takes_line {k : Pattern} (hline : '\n' ∉ line) (hv : EndsLine v)
    (hk : Fits k (x ++ line) v) : Takes (.group i (run inLine)) k x line v [⟨i, x, line⟩] := by
  refine (takes_star_run (inLine_of_notMem hline) ?_ hk).group i
  obtain rfl | ⟨s, rfl⟩ := hv
  · simp
  · simp [inLine]

theorem takes_lineEnd {j : Nat} (hline : '\n' ∉ line) (hv : EndsLine v) :
    Takes (.seq (.group i (run inLine)) (.group j (run anything))) .empty x (line ++ v) []
      [⟨j, x ++ line, v⟩, ⟨i, x, line⟩] := by
  have hrest : Takes (.group j (run anything)) .empty (x ++ line) v [] [⟨j, x ++ line, v⟩] :=
    (takes_rest fits_empty).group j
  have hgroup : Takes (.group i (run inLine))
      (.seq (.group j (run anything)) .empty) x line (v ++ []) [⟨i, x, line⟩] := by
    rw [List.append_nil]
    have hfits := hrest.fits fits_empty
    rw [List.append_nil] at hfits
    exact takes_line hline hv hfits
  exact hgroup.seq hrest

end Line

end Dictation.BuiltIn
