import Dictation.BuiltIn
import Dictation.Edit
import Dictation.Proofs.Marker.RoundTrip
import Dictation.Proofs.Pattern.Replacing
import Dictation.Rule.File

namespace Dictation.BuiltIn

open Marker (startBase stopBase selector recover recover_tag tag)
open Document (ofThree)
open Pattern (Capture Fits Takes matchOf)
open Replacement (Piece)

def rule? (trigger : String) : Option Rule :=
  (RuleSet.read rules).rules.find? (·.trigger == trigger.toList)

def replace? (trigger : String) (d : Document) : Option (Except Fault Marker.Recovered) :=
  (rule? trigger).map (·.replaceMatches d)

section Table

def replacement (trigger pattern template : String) (line : Nat) : Rule :=
  ⟨trigger.toList, .replacement pattern.toList template.toList, line⟩

def replacements : List Rule := [
  replacement "space" "🅰️[\\s\\S]*?🅱️" " 🅰️🅱️" 34,
  replacement "delete|backspace" "(\\S+\\s*)?🅰️[\\s\\S]*?🅱️" "🅰️🅱️" 36,
  replacement "sentence delete" "[^.!?]+[.!?]*\\s*🅰️[\\s\\S]*?🅱️" "🅰️🅱️" 38,
  replacement "selection delete" "🅰️[\\s\\S]*?🅱️" "🅰️🅱️" 40,
  replacement "clear all" "[\\s\\S]*" "🅰️🅱️" 42,
  replacement "clear space" "[ \\t]*🅰️([\\s\\S]*?)🅱️[ \\t]*" "🅰️$1🅱️" 44,
  replacement "move up"
    "(^|[\\s\\S]*\\n)([^\\n]*)\\n([^\\n]*)🅰️([\\s\\S]*?)🅱️([^\\n]*)([\\s\\S]*)"
      "$1🅰️🅱️$2\\n$3$4$5$6" 47,
  replacement "move down"
    "(^|[\\s\\S]*\\n)([^\\n]*)🅰️([\\s\\S]*?)🅱️([^\\n]*)\\n([^\\n]*)([\\s\\S]*)"
      "$1$2$3$4\\n🅰️🅱️$5$6" 49,
  replacement "move to start( of line)?"
    "(^|[\\s\\S]*\\n)([^\\n]*)🅰️([\\s\\S]*?)🅱️([\\s\\S]*)" "$1🅰️🅱️$2$3$4" 51,
  replacement "move to end( of line)?"
    "(^|[\\s\\S]*\\n)([^\\n]*)🅰️([\\s\\S]*?)🅱️([^\\n]*)([\\s\\S]*)" "$1$2$3$4🅰️🅱️$5" 53,
  replacement "move to top" "^([\\s\\S]*)🅰️([\\s\\S]*?)🅱️([\\s\\S]*)$" "🅰️🅱️$1$2$3" 55,
  replacement "move to bottom" "^([\\s\\S]*)🅰️([\\s\\S]*?)🅱️([\\s\\S]*)$" "$1$2$3🅰️🅱️" 57]

theorem replacement_ofList (trigger pattern template : Text) (line : Nat) :
    replacement (String.ofList trigger) (String.ofList pattern) (String.ofList template) line =
      ⟨trigger, .replacement pattern template, line⟩ := by
  simp [replacement]

theorem unlines_nil : unlines [] = [] := rfl

theorem unlines_cons (line : Text) (lines : List String) :
    unlines (String.ofList line :: lines) = line ++ '\n' :: unlines lines := by
  simp [unlines]

theorem unlines_cons_append (start rest : Text) (lines : List String) :
    unlines ((String.ofList start ++ String.ofList rest) :: lines) =
      start ++ rest ++ '\n' :: unlines lines := by
  simp [unlines]

-- A literal is the string of its characters, and rewritten as such it need not be decoded again.
theorem find?_replacements :
    replacements.map (fun r => (RuleSet.read rules).rules.find? (·.trigger == r.trigger)) =
      replacements.map some := by
  unfold rules replacements
  repeat first
    | rw [unlines_cons_append]
    | rw [unlines_cons]
  rw [unlines_nil]
  repeat rw [replacement_ofList]
  decide +kernel

theorem rule?_of_getElem? {i : Nat} {trigger pattern template : String} {line : Nat}
    (h : replacements[i]? = some (replacement trigger pattern template line)) :
    rule? trigger = some (replacement trigger pattern template line) :=
  List.map_inj_left.1 find?_replacements _ (List.mem_of_getElem? h)

end Table

section Outcome

variable {trigger : String} {line : Nat} {p : Pattern} {ps : List Piece} {d : Document}
  {x u v a b c : Text} {captures : List Capture}

def caretPieces : List Piece :=
  [.plain startBase, .plain selector, .plain stopBase, .plain selector]

def fill (captures : List Capture) : Piece → Text
  | .plain c => [c]
  | .group i => ((captures.find? (·.index == i)).map Capture.text).getD []
  | .named _ => []

def fillable : Piece → Bool
  | .plain _ => true
  | .group i => i != 0
  | .named _ => false

theorem flatMap_expand_matchOf {t : Text} (hinside : ∀ c ∈ captures, c.before ++ c.text <+: t)
    (hps : ps.all fillable = true) :
    ps.flatMap (·.expand [] t (matchOf x u captures)) = ps.flatMap (fill captures) := by
  refine List.flatMap_congr fun q hq => ?_
  have hfillable := List.all_eq_true.1 hps q hq
  cases q with
  | plain c => rfl
  | group i => exact congrArg (·.getD []) (Pattern.group?_matchOf (bne_iff_ne.1 hfillable) hinside)
  | named name => cases hfillable

/-- How a built-in rule reads: its pattern, and the pieces that a match is replaced by. -/
structure Reads (trigger : String) (p : Pattern) (ps : List Piece) : Prop where
  fillable : ps.all fillable = true
  replace?_eq : ∀ d : Document, replace? trigger d =
    some (.ok (recover (p.replaceAll (tag d) fun m => ps.flatMap (·.expand [] (tag d) m))
      d.cursorLine))

theorem reads_of_getElem? {pattern template : Text} (i : Nat)
    (hrule : replacements[i]? =
      some (replacement trigger (String.ofList pattern) (String.ofList template) line))
    (hpattern : Pattern.read? { multiLine := true } (Marker.canonical pattern) = some ⟨p, []⟩)
    (htemplate : Replacement.read (Template.toReplacement (Marker.canonical template) p.groups) =
      ps)
    (hps : ps.all BuiltIn.fillable = true) : Reads trigger p ps where
  fillable := hps
  replace?_eq d := by
    have hoperation : Operation.read? pattern template =
        some ⟨⟨p, []⟩, Template.toReplacement (Marker.canonical template) p.groups⟩ := by
      rw [Operation.read?, hpattern]
      rfl
    have hreplaced :
        (replacement trigger (String.ofList pattern) (String.ofList template) line).replaceMatches
            d =
          .ok (recover (p.replaceAll (tag d) fun m => ps.flatMap (·.expand [] (tag d) m))
            d.cursorLine) := by
      simp only [Rule.replaceMatches, Rule.operation, replacement, String.toList_ofList, hoperation]
      subst htemplate
      rfl
    rw [replace?, rule?_of_getElem? hrule, Option.map_some, hreplaced]

def leaves (d : Document) : Option (Except Fault Marker.Recovered) := some (.ok ⟨d, none⟩)

theorem tag_eq (a b c : Text) :
    tag (ofThree a b c) = a ++ (Marker.startMark ++ b ++ Marker.stopMark ++ c) := by
  simp [Marker.tag_ofThree]

theorem Reads.replace?_of_takes (h : Reads trigger p ps) (htag : tag d = x ++ u ++ v)
    (htakes : Takes p .empty x u v captures)
    (honly : ∀ x' y', x' ++ y' = x ++ u ++ v → Fits p x' y' → x.length ≤ x'.length ∧
      x'.length < (x ++ u).length)
    (hout : x ++ ps.flatMap (fill captures) ++ v = tag (ofThree a b c))
      (hd : Marker.Unmarked (a ++ b ++ c)) :
    replace? trigger d = leaves (ofThree a b c) := by
  rw [h.replace?_eq, htag, Pattern.replaceAll_of_takes htakes honly,
    flatMap_expand_matchOf htakes.inside h.fillable, hout, recover_tag hd, leaves]

theorem Reads.replace?_of_takes_all (h : Reads trigger p ps)
    (htakes : Takes p .empty [] (tag d) [] captures)
    (hp : p.nullable = false) (hout : ps.flatMap (fill captures) = tag (ofThree a b c))
    (hd : Marker.Unmarked (a ++ b ++ c)) : replace? trigger d = leaves (ofThree a b c) := by
  refine h.replace?_of_takes (by simp) htakes ?_ (by simpa using hout) hd
  -- a second match would start at the end of the text, where only an empty one is left
  rintro x y htext ⟨u, v, rfl, hmatch⟩
  have hu := List.length_pos_iff.2 (hmatch.ne_nil hp)
  have hlen := congrArg List.length htext
  simp only [List.length_append, List.length_nil] at hlen ⊢
  omega

theorem Reads.replace?_of_none (h : Reads trigger p ps)
    (hno : ∀ x y, x ++ y = tag (ofThree a b c) → ¬Fits p x y) (hd : Marker.Unmarked (a ++ b ++ c)) :
    replace? trigger (ofThree a b c) = leaves (ofThree a b c) := by
  rw [h.replace?_eq, Pattern.replaceAll_of_none hno, recover_tag hd, leaves]

end Outcome

end Dictation.BuiltIn
