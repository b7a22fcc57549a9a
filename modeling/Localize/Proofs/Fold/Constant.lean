/-
  Constant strings, and the calls that have nothing else for arguments. A constant string is a tree of
  sums of operands; `Summed` lists the texts of these from left to right, `plainText` evaluates such a
  tree by recursion, and `Unwinds` is the loop over pending expressions without a count of its rounds.
  What is kept by a round of the loop is the join of the texts so far and of those still to come
  (`Unwinds.result_eq`), and as many rounds as there are sums and operands are enough
  (`evaluateFrom_unwinds`). So the loop ends, for every expression, with the text of the recursion
  (`constantText_eq_plainText`), and the call sites are just the plain calls of constant strings
  (`callSite_of_constants`).
-/
import Localize.Proofs.Fold.Census

namespace Localize

open Syntax

namespace Syntax.Node

/-! ## What a constant string is -/

/-- A string, or a formatted string that consists of strings only, with its text. -/
inductive IsOperand : Node → String → Prop
  | text (s : String) : IsOperand (.text s) s
  | joined (texts : List String) : IsOperand (.joined (texts.map .text)) (String.join texts)

/-- A tree of sums of such operands, with their texts from left to right. -/
inductive Summed : Node → List String → Prop
  | operand {node : Node} {s : String} (h : node.IsOperand s) : Summed node [s]
  | sum {left right : Node} {ts us : List String} (hleft : Summed left ts)
      (hright : Summed right us) : Summed (.sum left right) (ts ++ us)

/-- A constant string with its text, which joins the texts of the operands. -/
def IsConstant (node : Node) (s : String) : Prop := ∃ texts, node.Summed texts ∧ s = String.join texts

theorem join_single (s : String) : String.join [s] = s := by
  rw [String.join_cons, String.join_nil, String.append_empty]

theorem joinedText_eq_some_iff {parts : List Node} {s : String} :
    joinedText parts = some s ↔ ∃ texts : List String, parts = texts.map .text ∧ s = String.join texts := by
  induction parts generalizing s with
  | nil =>
    constructor
    · intro h
      cases h
      exact ⟨[], rfl, rfl⟩
    · rintro ⟨texts, hparts, rfl⟩
      rw [List.map_eq_nil_iff.mp hparts.symm]
      rfl
  | cons part rest ih =>
    constructor
    · intro h
      cases part with
      | text t =>
        obtain ⟨u, hu, rfl⟩ := Option.map_eq_some_iff.mp h
        obtain ⟨texts, rfl, rfl⟩ := ih.mp hu
        exact ⟨t :: texts, rfl, String.join_cons.symm⟩
      | _ => cases h
    · rintro ⟨texts, hparts, rfl⟩
      obtain ⟨t, texts, rfl, rfl, rfl⟩ := List.map_eq_cons_iff.mp hparts.symm
      rw [joinedText, ih.mpr ⟨texts, rfl, rfl⟩, Option.map_some, String.join_cons]

theorem operandText_eq_some_iff {node : Node} {s : String} :
    node.operandText = some s ↔ node.IsOperand s := by
  constructor
  · intro h
    cases node with
    | text t =>
      cases h
      exact .text s
    | joined parts =>
      obtain ⟨texts, rfl, rfl⟩ := joinedText_eq_some_iff.mp h
      exact .joined texts
    | _ => cases h
  · rintro (s | texts)
    · rfl
    · exact joinedText_eq_some_iff.mpr ⟨texts, rfl, rfl⟩

/-! ## Evaluation by recursion -/

/-- The text of a constant string by recursion along its sums. -/
def plainText : Node → Option String
  | .sum left right => do
    let s ← plainText left
    return s ++ (← plainText right)
  | operand => operand.operandText

theorem plainText_operand {node : Node} (h : ∀ left right, node ≠ sum left right) :
    node.plainText = node.operandText := plainText.eq_2 node h

theorem plainText_sum_eq_some_iff {left right : Node} {u : String} :
    (sum left right).plainText = some u ↔
      ∃ s t, left.plainText = some s ∧ right.plainText = some t ∧ u = s ++ t := by
  rw [plainText]
  constructor
  · intro h
    obtain ⟨s, hs, h⟩ := Option.bind_eq_some_iff.mp h
    obtain ⟨t, ht, h⟩ := Option.bind_eq_some_iff.mp h
    exact ⟨s, t, hs, ht, (Option.some.inj h).symm⟩
  · rintro ⟨s, t, hs, ht, rfl⟩
    rw [hs, ht]
    rfl

/-- The recursion has a text just for the constant strings. -/
theorem plainText_eq_some_iff {node : Node} {s : String} :
    node.plainText = some s ↔ node.IsConstant s := by
  constructor
  · intro h
    fun_induction plainText node generalizing s with
    | case1 left right ihleft ihright =>
      obtain ⟨t, u, ht, hu, rfl⟩ := plainText_sum_eq_some_iff.mp h
      obtain ⟨ts, hleft, rfl⟩ := ihleft ht
      obtain ⟨us, hright, rfl⟩ := ihright hu
      exact ⟨ts ++ us, .sum hleft hright, String.join_append.symm⟩
    | case2 node hsum =>
      exact ⟨[s], .operand (operandText_eq_some_iff.mp h), (join_single s).symm⟩
  · rintro ⟨texts, h, rfl⟩
    induction h with
    | @operand node s h =>
      have hsum : ∀ left right, node ≠ sum left right := by
        rintro left right rfl
        cases h
      rw [plainText_operand hsum, operandText_eq_some_iff.mpr h, join_single]
    | sum _ _ ihleft ihright =>
      exact plainText_sum_eq_some_iff.mpr ⟨_, _, ihleft, ihright, String.join_append⟩

/-! ## Evaluation with pending expressions -/

/-- The loop that takes an expression from the front of the pending ones as long as there is one, for as many
rounds as it takes: what it ends with, from the pending expressions and the texts so far, reversed. -/
inductive Unwinds : List Node → List String → Option String → Prop
  | finished (texts : List String) : Unwinds [] texts (some (String.join texts.reverse))
  /-- The operands of a sum take its place, the left one in front. -/
  | sum {left right : Node} {pending : List Node} {texts : List String} {result : Option String}
      (rest : Unwinds (left :: right :: pending) texts result) :
      Unwinds (.sum left right :: pending) texts result
  | operand {node : Node} {s : String} {pending : List Node} {texts : List String}
      {result : Option String} (constant : node.IsOperand s)
      (rest : Unwinds pending (s :: texts) result) : Unwinds (node :: pending) texts result
  /-- The loop ends without a text at the first expression that is neither. -/
  | stopped {node : Node} (other : ∀ left right, node ≠ .sum left right)
      (unknown : ∀ s, ¬ node.IsOperand s) (pending : List Node) (texts : List String) :
      Unwinds (node :: pending) texts none

/-- The rounds that pending expressions take, one for each sum and operand. -/
def roundsFor : List Node → Nat
  | [] => 0
  | node :: rest => node.summands + roundsFor rest

theorem summands_pos (node : Node) : 0 < node.summands := by
  cases node <;> simp [summands]

/-- The number of rounds is no limit: if there are as many as it takes, the loop comes to its end. -/
theorem evaluateFrom_unwinds {rounds : Nat} {pending : List Node} (texts : List String)
    (h : roundsFor pending ≤ rounds) : Unwinds pending texts (evaluateFrom rounds pending texts) := by
  induction rounds generalizing pending texts with
  | zero =>
    cases pending with
    | nil => exact .finished texts
    | cons node pending =>
      have hpos := summands_pos node
      rw [roundsFor] at h
      omega
  | succ rounds ih =>
    cases pending with
    | nil => exact .finished texts
    | cons node pending =>
      rw [roundsFor] at h
      by_cases hsum : ∃ left right, node = .sum left right
      · obtain ⟨left, right, rfl⟩ := hsum
        refine .sum (ih texts ?_)
        rw [summands] at h
        rw [roundsFor, roundsFor]
        omega
      · have hother : ∀ left right, node ≠ .sum left right := fun l r heq => hsum ⟨l, r, heq⟩
        have hpos := summands_pos node
        rw [evaluateFrom.eq_4 _ _ _ _ hother]
        rcases ht : node.operandText with _ | s
        · refine .stopped hother (fun s hs => ?_) pending texts
          rw [operandText_eq_some_iff.mpr hs] at ht
          cases ht
        · exact .operand (operandText_eq_some_iff.mp ht) (ih (s :: texts) (by omega))

theorem plainText_of_isOperand {node : Node} {s : String} (h : node.IsOperand s) :
    node.plainText = some s :=
  plainText_eq_some_iff.mpr ⟨[s], .operand h, (join_single s).symm⟩

/-- What the rounds keep: the texts so far, followed by those of the pending expressions, give the result. -/
theorem Unwinds.result_eq {pending : List Node} {texts : List String} {result : Option String}
    (h : Unwinds pending texts result) :
    result = (pending.mapM plainText).map fun rest => String.join (texts.reverse ++ rest) := by
  induction h with
  | finished texts => simp
  | @sum left right pending texts result rest ih =>
    rw [ih]
    simp only [List.mapM_cons, plainText]
    rcases left.plainText with _ | s
    · rfl
    · rcases right.plainText with _ | t
      · rfl
      · rcases pending.mapM plainText with _ | rest
        · rfl
        · simp [String.join_append, String.join_cons, String.append_assoc]
  | @operand node s pending texts result constant rest ih =>
    rw [ih, List.mapM_cons, plainText_of_isOperand constant]
    rcases pending.mapM plainText with _ | rest
    · rfl
    · simp
  | @stopped node other unknown pending texts =>
    have hnone : node.plainText = none := by
      rw [plainText_operand other, Option.eq_none_iff_forall_ne_some]
      exact fun s hs => unknown s (operandText_eq_some_iff.mp hs)
    rw [List.mapM_cons, hnone]
    rfl

theorem constantText_unwinds (node : Node) : Unwinds [node] [] node.constantText :=
  evaluateFrom_unwinds [] (Nat.le_refl node.summands)

theorem constantText_eq_plainText (node : Node) : node.constantText = node.plainText := by
  rw [(constantText_unwinds node).result_eq, List.mapM_cons]
  rcases node.plainText with _ | s
  · rfl
  · exact congrArg some (join_single s)

/-- The loop has one end only. -/
theorem unwinds_iff {node : Node} {result : Option String} :
    Unwinds [node] [] result ↔ result = node.constantText := by
  constructor
  · intro h
    rw [h.result_eq, (constantText_unwinds node).result_eq]
  · rintro rfl
    exact constantText_unwinds node

theorem constantText_eq_some_iff {node : Node} {s : String} :
    node.constantText = some s ↔ node.IsConstant s := by
  rw [constantText_eq_plainText]
  exact plainText_eq_some_iff

/-! ## Plain calls of constant strings -/

/-- A plain call of a name with constant strings: the callee is the bare name, nothing is passed by keyword
and nothing starred, and there are one or two arguments. The last one is the key, and the first one the
text that stands in for it. -/
structure ConstantCall (name : String) (callee : Node) (arguments keywords : List Node)
    (key text : String) : Prop where
  bare : callee = .name name
  unnamed : keywords = []
  unstarred : ∀ a ∈ arguments, ∀ inner, a ≠ .starred inner
  few : arguments.length = 1 ∨ arguments.length = 2
  constant : ∃ texts, List.Forall₂ IsConstant arguments texts ∧
    texts.getLast? = some key ∧ texts.head? = some text

section Call

variable {name key text : String} {callee : Node} {arguments keywords : List Node} {span : Span}

theorem isStarred_iff {node : Node} : node.isStarred = true ↔ ∃ inner, node = .starred inner := by
  cases node with
  | starred inner => exact ⟨fun _ => ⟨inner, rfl⟩, fun _ => rfl⟩
  | _ =>
    constructor
    · exact nofun
    · rintro ⟨inner, ⟨⟩⟩

theorem callsName_iff :
    (call callee arguments keywords span).callsName name = true ↔ callee = .name name := by
  cases callee with
  | name id => simp [callsName]
  | _ => exact ⟨nofun, nofun⟩

theorem hasPlainArguments_iff :
    (call callee arguments keywords span).hasPlainArguments = true ↔
      keywords = [] ∧ (∀ a ∈ arguments, ∀ inner, a ≠ .starred inner) ∧
        (arguments.length = 1 ∨ arguments.length = 2) := by
  have hstars : arguments.any isStarred = false ↔ ∀ a ∈ arguments, ∀ inner, a ≠ .starred inner := by
    rw [List.any_eq_false]
    refine forall₂_congr fun a _ => ?_
    rw [isStarred_iff, not_exists]
  simp only [hasPlainArguments, Bool.and_eq_true, List.isEmpty_iff, Bool.not_eq_true', hstars,
    Bool.or_eq_true, decide_eq_true_eq, and_assoc]

/-- The key and the text of a call are those of its arguments, of which there are one or two. -/
theorem keyAndText_eq_some_iff :
    (call callee arguments keywords span).keyAndText = some (key, text) ↔
      (arguments.length = 1 ∨ arguments.length = 2) ∧
        ∃ texts, List.Forall₂ IsConstant arguments texts ∧
          texts.getLast? = some key ∧ texts.head? = some text := by
  match arguments with
  | [] => exact ⟨nofun, fun h => by simp at h⟩
  | [single] =>
    constructor
    · intro h
      obtain ⟨k, hk, h⟩ := Option.bind_eq_some_iff.mp h
      cases h
      exact ⟨.inl rfl, [key], .cons (constantText_eq_some_iff.mp hk) .nil, rfl, rfl⟩
    · rintro ⟨-, texts, hconstant, hkey, htext⟩
      rcases hconstant with _ | ⟨hk, ⟨⟩⟩
      cases hkey
      cases htext
      rw [keyAndText, constantText_eq_some_iff.mpr hk]
      rfl
  | [first, last] =>
    constructor
    · intro h
      obtain ⟨k, hk, h⟩ := Option.bind_eq_some_iff.mp h
      obtain ⟨t, ht, h⟩ := Option.bind_eq_some_iff.mp h
      cases h
      exact ⟨.inr rfl, [text, key],
        .cons (constantText_eq_some_iff.mp ht) (.cons (constantText_eq_some_iff.mp hk) .nil), rfl, rfl⟩
    · rintro ⟨-, texts, hconstant, hkey, htext⟩
      rcases hconstant with _ | ⟨ht, _ | ⟨hk, ⟨⟩⟩⟩
      cases hkey
      cases htext
      rw [keyAndText, constantText_eq_some_iff.mpr hk, constantText_eq_some_iff.mpr ht]
      rfl
  | _ :: _ :: _ :: _ => exact ⟨nofun, fun h => by simp at h⟩

/-- The calls that can be folded are the plain calls of constant strings. -/
theorem constantCall_iff (span : Span) :
    ConstantCall name callee arguments keywords key text ↔
      (call callee arguments keywords span).isLocalizationCall name = true ∧
        (call callee arguments keywords span).keyAndText = some (key, text) := by
  rw [isLocalizationCall, Bool.and_eq_true, callsName_iff, hasPlainArguments_iff,
    keyAndText_eq_some_iff]
  constructor
  · intro h
    exact ⟨⟨h.bare, h.unnamed, h.unstarred, h.few⟩, h.few, h.constant⟩
  · rintro ⟨⟨hbare, hunnamed, hunstarred, hfew⟩, -, hconstant⟩
    exact ⟨hbare, hunnamed, hunstarred, hfew, hconstant⟩

theorem isFoldable_iff (span : Span) :
    (call callee arguments keywords span).isFoldable name = true ↔
      ∃ key text, ConstantCall name callee arguments keywords key text := by
  simp only [isFoldable, Bool.and_eq_true, Option.isSome_iff_exists, Prod.exists,
    constantCall_iff span, exists_and_left]

end Call

end Syntax.Node

open Syntax.Node

section CallSite

variable {name : String} {index : LineIndex} {callee : Node} {arguments keywords : List Node}
  {span : Span}

/-- A call gives a call site just if it is a plain call of constant strings; the place is that of the call. -/
theorem CallSite.of?_eq_some_iff {s : CallSite} :
    CallSite.of? name index (.call callee arguments keywords span) = .ok (some s) ↔
      ConstantCall name callee arguments keywords s.key s.text ∧
        index.rangeOfSpan span = .ok s.range ∧ index.locationOfSpan span = .ok s.location := by
  constructor
  · intro h
    obtain ⟨_, _, _, _, ⟨⟩, hcall, hkey, hrange, hlocation⟩ := CallSite.of?_eq_some h
    exact ⟨(constantCall_iff span).mpr ⟨hcall, hkey⟩, hrange, hlocation⟩
  · rintro ⟨hcall, hrange, hlocation⟩
    obtain ⟨hcall, hkey⟩ := (constantCall_iff span).mp hcall
    rw [CallSite.of?, if_pos hcall, hkey]
    dsimp only
    rw [hrange, hlocation]
    rfl

theorem CallSite.of?_eq_none_iff :
    CallSite.of? name index (.call callee arguments keywords span) = .ok none ↔
      ¬ ∃ key text, ConstantCall name callee arguments keywords key text := by
  rw [← isFoldable_iff span]
  constructor
  · intro h hfold
    obtain ⟨hcall, hkey⟩ := Bool.and_eq_true_iff.mp hfold
    obtain ⟨⟨key, text⟩, hkey⟩ := Option.isSome_iff_exists.mp hkey
    rw [CallSite.of?, if_pos hcall, hkey] at h
    dsimp only at h
    rcases hrange : index.rangeOfSpan span with e | range
    · rw [hrange] at h
      cases h
    · rcases hlocation : index.locationOfSpan span with e | location
      · rw [hrange, hlocation] at h
        cases h
      · rw [hrange, hlocation] at h
        cases h
  · exact CallSite.of?_of_not_foldable

end CallSite

/-- For every expression the loop over pending expressions ends, with the text that the recursion has; it has
one just if the expression is a tree of sums of constant operands, and that is their texts from left to
right. A call is a call site just if it is a plain call of one or two such expressions, with the text of the
last one for its key and that of the first one to stand in. No call site has another call in it. -/
theorem callSite_of_constants (node : Node) (name : String) (index : LineIndex) (callee : Node)
    (arguments keywords : List Node) (span : Span) :
    (∀ result, Unwinds [node] [] result ↔ result = node.constantText) ∧
    node.constantText = node.plainText ∧
    (∀ s, node.constantText = some s ↔ ∃ texts, node.Summed texts ∧ s = String.join texts) ∧
    (∀ s, CallSite.of? name index (.call callee arguments keywords span) = .ok (some s) ↔
      ConstantCall name callee arguments keywords s.key s.text ∧
        index.rangeOfSpan span = .ok s.range ∧ index.locationOfSpan span = .ok s.location) ∧
    (CallSite.of? name index (.call callee arguments keywords span) = .ok none ↔
      ¬ ∃ key text, ConstantCall name callee arguments keywords key text) ∧
    ∀ key text, ConstantCall name callee arguments keywords key text →
      ∀ path inner, (Node.call callee arguments keywords span).HasCall path inner → path = [] := by
  refine ⟨fun _ => unwinds_iff, constantText_eq_plainText node, fun _ => constantText_eq_some_iff,
    fun _ => CallSite.of?_eq_some_iff, CallSite.of?_eq_none_iff, ?_⟩
  intro key text hcall path inner hinner
  rcases path with _ | ⟨i, path⟩
  · rfl
  · obtain ⟨child, hi, hinner⟩ := hasCall_cons.mp hinner
    have hfold := (isFoldable_iff span).mpr ⟨key, text, hcall⟩
    exact absurd hinner (isFoldable_inner hfold child (List.mem_of_getElem? hi) path inner)

/-- A sum that leans to the right, with a formatted string in it. -/
def leaningSum : Node := .sum (.text "a") (.sum (.joined [.text "b", .text "c"]) (.text "d"))

/-- A call with this sum for its text and a string for its key. -/
theorem callSite_of_constants_leaning :
    ConstantCall "__" (.name "__") [leaningSum, .text "k"] [] "k" "abcd" ∧
    (∃ s, CallSite.of? "__" (.of "__('a' + (f'bc' + 'd'), 'k')")
        (.call (.name "__") [leaningSum, .text "k"] [] ⟨⟨1, 0⟩, ⟨1, 27⟩⟩) = .ok (some s) ∧
      s.key = "k" ∧ s.text = "abcd" ∧ s.range.start = 0 ∧ s.range.stop = 27) ∧
    ∀ path inner, (Node.call (.name "__") [leaningSum, .text "k"] [] ⟨⟨1, 0⟩, ⟨1, 27⟩⟩).HasCall
      path inner → path = [] := by
  obtain ⟨-, -, htext, hsite, -, hinner⟩ := callSite_of_constants leaningSum "__"
    (.of "__('a' + (f'bc' + 'd'), 'k')") (.name "__") [leaningSum, .text "k"] [] ⟨⟨1, 0⟩, ⟨1, 27⟩⟩
  have hleaning : leaningSum.IsConstant "abcd" := (htext "abcd").mp (by decide)
  have hcall : ConstantCall "__" (.name "__") [leaningSum, .text "k"] [] "k" "abcd" := by
    refine ⟨rfl, rfl, fun a ha inner => ?_, .inr rfl, ["abcd", "k"], ?_, rfl, rfl⟩
    · rcases List.mem_pair.mp ha with rfl | rfl <;> nofun
    · exact .cons hleaning (.cons ⟨["k"], .operand (.text "k"), (join_single "k").symm⟩ .nil)
  have hplaced : ∃ range location,
      (LineIndex.of "__('a' + (f'bc' + 'd'), 'k')").rangeOfSpan ⟨⟨1, 0⟩, ⟨1, 27⟩⟩ = .ok range ∧
      (LineIndex.of "__('a' + (f'bc' + 'd'), 'k')").locationOfSpan ⟨⟨1, 0⟩, ⟨1, 27⟩⟩ = .ok location ∧
      range.start = 0 ∧ range.stop = 27 := ⟨_, _, rfl, rfl, rfl, rfl⟩
  obtain ⟨range, location, hrange, hlocation, hstart, hstop⟩ := hplaced
  exact ⟨hcall, ⟨⟨"k", "abcd", range, location⟩, (hsite _).mpr ⟨hcall, hrange, hlocation⟩, rfl, rfl,
    hstart, hstop⟩, hinner "k" "abcd" hcall⟩

end Localize
