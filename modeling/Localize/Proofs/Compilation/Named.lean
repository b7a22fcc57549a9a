/-
  Names of the localization function. The configuration accepts every identifier, and the reader
  composes the identifiers of a source before they are compared with it. So a module that is a call of
  an accepted name with its key is folded just if the name is its own composed form
  (`folded_iff_composed`): a name with another composed form is never matched (`buildModule_ordinal`).
-/
import Localize.Proofs.Compilation.Body
import Localize.Proofs.Fold.Literal
import Localize.Proofs.Fold.Replacement
import Localize.Proofs.Position.Lines
import Localize.Proofs.Syntax.Call

namespace Localize

open Syntax
open Json (isClosed stringChar)
open Syntax.Expression (composed)
open Text (hexWords hexWordsFrom identifierStarts identifierStartWords isIdentifier isIdentifierStart)

/-! ## Accepted names -/

/-- A name that the configuration accepts is the one that it has, an identifier and no keyword. -/
theorem Config.of_text {primary fallback : Given} {name : String} {config : Config}
    (h : Config.of primary fallback (.text name) = .ok config) :
    config.functionName = name ∧ isIdentifier name.toList = true ∧ isKeyword name = false := by
  unfold Config.of at h
  rcases hprimary : primary.source? (some "localization") with d | source
  · rw [hprimary] at h
    cases h
  · rcases hfallback : fallback.source? (some "fallback") with d | other
    · rw [hprimary, hfallback] at h
      cases h
    · rw [hprimary, hfallback] at h
      by_cases hname : isFunctionName name = true
      · have hparts := hname
        rw [isFunctionName, Bool.and_eq_true, Bool.not_eq_true'] at hparts
        dsimp only [bind, Except.bind] at h
        rw [if_pos hname] at h
        cases h
        exact ⟨rfl, hparts⟩
      · dsimp only [bind, Except.bind] at h
        rw [if_neg hname] at h
        cases h

/-! ## Keys between quotes -/

/-- What stands for a key between double quotes, in one line. -/
structure Spells (body : List Char) (key : String) : Prop where
  closed : isClosed body
  feed : '\n' ∉ body
  carriage : '\r' ∉ body
  null : '\x00' ∉ body
  denotes : unescape body = some key.toList

/-- Every key can be spelled, as JSON has it. -/
theorem spells_written (key : String) : Spells (key.toList.flatMap stringChar) key where
  closed := Json.isClosed_written _
  feed := Json.not_mem_written (by decide) _
  carriage := Json.not_mem_written (by decide) _
  null := Json.not_mem_written (by decide) _
  denotes := unescape_written _

/-! ## The tree of a call -/

/-- The span of a call that a module is. -/
def callSpan (word body : List Char) : Span := ⟨⟨1, 0⟩, (⟨1, 0⟩ : Point).after (callText word body [])⟩

/-- A line of a table as its characters. -/
theorem Text.hexWords_cons (cs : List Char) (lines : List String) :
    hexWords (String.ofList cs :: lines) = hexWordsFrom none cs ++ hexWords lines := by
  simp [hexWords]

/-- No name begins with a byte order mark. -/
theorem isIdentifierStart_byteOrderMark : isIdentifierStart byteOrderMark = false := by
  have hwide : ¬ byteOrderMark.toNat < 128 := by decide
  rw [isIdentifierStart, if_neg hwide, identifierStarts, identifierStartWords]
  -- the lines of the table are not strings any more when it is evaluated
  repeat rw [Text.hexWords_cons]
  decide +kernel

/-- No call begins with a byte order mark. -/
theorem head?_callText {word : List Char} (hword : isIdentifier word = true) (body rest : List Char) :
    (callText word body rest).head? ≠ some byteOrderMark := by
  obtain ⟨c, tail, rfl, hstart, -⟩ := exists_cons_of_isIdentifier hword
  have hne : c ≠ byteOrderMark := by
    intro h
    rw [h, isIdentifierStart_byteOrderMark] at hstart
    exact Bool.false_ne_true hstart
  exact fun h => hne (Option.some.inj h)

section Call

variable {word body ending : List Char} {key : String} (hword : isIdentifier word = true)
  (hbody : Spells body key) (hending : ending = [] ∨ ending = ['\n'])

include hword hbody in
theorem unbroken_callText : Unbroken (callText word body []) := by
  have hcarriage : '\r' ∉ word := not_mem_of_isIdentifier hword (by decide)
  have hfeed : '\n' ∉ word := not_mem_of_isIdentifier hword (by decide)
  exact ⟨by simp [callText, hcarriage, hbody.carriage], by simp [callText, hfeed, hbody.feed]⟩

include hword hbody hending

/-- The first line of the module is the call. -/
theorem exists_splitLines_call :
    ∃ below, splitLines (callText word body ending) = (callText word body [] ++ ending) :: below := by
  have hunbroken := unbroken_callText hword hbody
  rw [callText_append, splitLines, splitLinesFrom_body hunbroken]
  rcases hending with rfl | rfl
  · exact ⟨[], by simp [splitLinesFrom]⟩
  · exact ⟨_, by rw [splitLinesFrom_feed, List.append_nil, List.reverse_reverse]⟩

/-- The call has its place in the text. -/
theorem placed_callSpan : (callSpan word body).Placed (splitLines (callText word body ending)) := by
  obtain ⟨below, hlines⟩ := exists_splitLines_call hword hbody hending
  obtain ⟨c, rest, hcons⟩ : ∃ c rest, callText word body [] = c :: rest := by
    obtain ⟨c, rest, rfl, -⟩ := exists_cons_of_isIdentifier hword
    exact ⟨c, _, rfl⟩
  constructor
  · refine .mk [] [] c (rest ++ ending) below ?_
    rw [hlines, hcons]
    rfl
  · have hstop : (callSpan word body).stop = ⟨1, byteSize (callText word body [])⟩ := by
      simp [callSpan, Point.after]
    rw [hstop]
    exact .mk [] (callText word body []) ending below hlines
  · refine .inr ⟨rfl, ?_⟩
    have hpositive : 0 < byteSize (callText word body []) := by
      rw [hcons, byteSize]
      have := utf8Size_pos c
      omega
    simpa [callSpan, Point.after] using hpositive

/-- The call is all of the text but its ending. -/
theorem rangeOfSpan_callSpan :
    (indexOf (callText word body ending)).rangeOfSpan (callSpan word body) =
      .ok ⟨0, (callText word body []).length, Nat.zero_le _⟩ := by
  generalize hindex : indexOf (callText word body ending) = index
  obtain ⟨below, hlines⟩ := exists_splitLines_call hword hbody hending
  have hplaced : (callSpan word body).Placed index.lines := hindex ▸ placed_callSpan hword hbody hending
  have hfirst : index.lines = [] ++ ([] ++ (callText word body [] ++ ending)) :: below := hindex ▸ hlines
  have hwhole : index.lines = [] ++ (callText word body [] ++ ending) :: below := hindex ▸ hlines
  obtain ⟨hle, hrange⟩ := index.rangeOfSpan_of_placed hplaced
  have hstart : index.place (callSpan word body).start = 0 := index.place_of_split hfirst
  have hstop : index.place (callSpan word body).stop = (callText word body []).length := by
    have hplace := index.place_of_split hwhole
    simpa [callSpan, Point.after] using hplace
  rw [hrange]
  simp only [hstart, hstop]

/-- The tree of the call is the one of its source. -/
theorem treeOf?_callText (hkeyword : isKeyword (String.ofList word) = false) :
    treeOf? (String.ofList (callText word body ending)) =
      some (callTree (composed (String.ofList word)) key (callSpan word body)) := by
  have hnull : '\x00' ∉ callText word body ending := by
    have hname : '\x00' ∉ word := not_mem_of_isIdentifier hword (by decide)
    rcases hending with rfl | rfl <;> simp [callText, hname, hbody.null]
  have hparse :=
    parseModule_call hword hkeyword hbody.closed hbody.feed hbody.carriage hbody.denotes hending
  rw [treeOf?_ofList (head?_callText hword body ending) hnull, hparse, String.ofList_toList]
  rfl

end Call

/-- The only call of the tree has its place if its span has. -/
theorem wellPlaced_callTree {lines : List (List Char)} {span : Span} (h : span.Placed lines)
    (name key : String) : (callTree name key span).WellPlaced lines := by
  have hdeep : (callTree name key span).exceeds 4 = false := rfl
  have hcalls : (callTree name key span).callsTo 4 = [([0, 0], span)] := rfl
  refine Node.wellPlaced_of_callsTo hdeep ?_ ?_
  · rw [hcalls]
    simpa using h
  · rw [hcalls]
    intro c hc d hd hne
    rw [List.mem_singleton.mp hc, List.mem_singleton.mp hd] at hne
    exact absurd (List.prefix_refl _) hne

/-! ## What is folded -/

/-- The call of the tree is a call site just if its name is that of the function. -/
theorem sites_callTree {index : LineIndex} {span : Span} (h : span.Placed index.lines)
    (function name key : String) {levels : Nat} (hlevels : 4 ≤ levels) :
    ∃ s : CallSite, s.key = key ∧ s.text = key ∧ index.rangeOfSpan span = .ok s.range ∧
      sites function index levels (callTree name key span) = if name = function then [s] else [] := by
  obtain ⟨n, rfl⟩ := Nat.exists_eq_add_of_le' hlevels
  obtain ⟨hle, hrange⟩ := index.rangeOfSpan_of_placed h
  obtain ⟨location, hlocation⟩ := index.locationOfSpan_of_placed h
  refine ⟨⟨key, key, _, location⟩, rfl, rfl, hrange, ?_⟩
  have hform : ∀ below kind child, sites function index (below + 1) (.form kind [child]) =
      sites function index below child := by
    intro below kind child
    rw [sites_of_none rfl]
    exact List.flatMap_singleton _ _
  rw [callTree, hform (n + 3), hform (n + 2)]
  have hkey : (Node.call (.name name) [.text key] [] span).keyAndText = some (key, key) := by
    show some (String.join [key], String.join [key]) = _
    simp [String.join]
  split
  · rename_i hname
    refine sites_of_site ?_ (n + 1)
    have hcall : (Node.call (.name name) [.text key] [] span).isLocalizationCall function = true := by
      simp [Node.isLocalizationCall, Node.callsName, Node.hasPlainArguments, Node.isStarred, hname]
    unfold CallSite.of?
    dsimp only
    rw [if_pos hcall, hkey]
    dsimp only
    rw [hrange, hlocation]
    rfl
  · rename_i hname
    have hnone : CallSite.of? function index (.call (.name name) [.text key] [] span) = .ok none := by
      unfold CallSite.of?
      dsimp only
      rw [if_neg (by simp [Node.isLocalizationCall, Node.callsName, hname])]
    have hleaf : ∀ leaf : Node, CallSite.of? function index leaf = .ok none → leaf.children = [] →
        sites function index (n + 1) leaf = [] := by
      intro leaf hof hchildren
      rw [sites_of_none hof, hchildren]
      rfl
    rw [sites_of_none hnone]
    show List.flatMap _ [Node.name name, Node.text key] = []
    rw [List.flatMap_cons, List.flatMap_singleton, hleaf (.name name) rfl rfl, hleaf (.text key) rfl rfl]
    rfl

/-- A scan can be done if the keys of the call sites that it folds are answered. -/
theorem feasible_of_sites {config : Config} {index : LineIndex} {tree : Node} (h : tree.Located index)
    {levels : Nat} (hanswers : ∀ s ∈ sites config.functionName index levels tree, config.Answers s.key) :
    Feasible config (stops config.functionName index levels tree) :=
  ⟨not_misplaced config.functionName h levels, fun s hs =>
    filling_of_answers (m := s.miss) (hanswers s (List.mem_filterMap.mpr ⟨_, hs, rfl⟩))⟩

/-- A text with one range replaced. -/
theorem Substitution.replaced_single {text : List Char} {s : Substitution} (h : s.Fits text.length) :
    replaced text [s] = text.take s.range.start ++ (s.encoded.toList ++ text.drop s.range.stop) := by
  have hfits : ∀ t ∈ [s], t.Fits text.length := by simpa using h
  rw [← splice_eq_replaced hfits (List.pairwise_singleton _ _), splice_single]

/-- A literal in the place of a call, in front of what is behind it. -/
theorem replaced_callText (word body ending : List Char) {s : Substitution} (hkind : s.kind = .constant)
    (hrange : s.range = ⟨0, (callText word body []).length, Nat.zero_le _⟩) :
    Substitution.replaced (callText word body ending) [s] = s.encoded.toList ++ ending := by
  have hlength : 0 < (callText word body []).length := by
    simp only [callText, List.length_append, List.length_cons]
    omega
  have hfits : s.Fits (callText word body ending).length := by
    refine ⟨hkind, ?_, ?_⟩
    · rw [hrange]
      exact hlength
    · rw [hrange, callText_append word body ending, List.length_append]
      exact Nat.le_add_right _ _
  rw [Substitution.replaced_single hfits, hrange, callText_append word body ending, List.drop_left]
  rfl

section Folded

variable {config : Config} {word body ending : List Char} {key : String}
  (hword : isIdentifier word = true) (hkeyword : isKeyword (String.ofList word) = false)
  (hbody : Spells body key) (hending : ending = [] ∨ ending = ['\n']) (hanswers : config.Answers key)

include hword hkeyword hbody hending hanswers

/-- The body of a call: its only substitution is that of the whole call, if the composed form of the name
is the name of the function. -/
theorem bodyOf_callText (files : List (String × Text.Bytes)) (id : String) :
    ∃ (m : Module) (s : CallSite) (r : Resolution),
      bodyOf config files id (String.ofList (callText word body ending)) = .ok m ∧
        s.key = key ∧ s.text = key ∧ s.range = ⟨0, (callText word body []).length, Nat.zero_le _⟩ ∧
        resolved config s.miss = .ok r ∧
        m.dependencies = (if composed (String.ofList word) = config.functionName then
          [Substitution.of r.value s r.outcome] else []) ∧
        m.output = String.ofList (Substitution.replaced (callText word body ending) m.dependencies) := by
  have hmark := head?_callText hword body ending
  have hplaced := placed_callSpan hword hbody hending
  have hplacedIn : (callSpan word body).Placed (indexOf (callText word body ending)).lines := hplaced
  obtain ⟨s, hkey, htext, hrange, hsites⟩ := sites_callTree hplacedIn config.functionName
    (composed (String.ofList word)) key (show 4 ≤ Guard.traversal.levels by decide)
  rw [rangeOfSpan_callSpan hword hbody hending] at hrange
  obtain ⟨r, hr⟩ := resolved_of_answers (m := s.miss) (hkey ▸ hanswers)
  have hwell := wellPlaced_callTree hplaced (composed (String.ofList word)) key
  have hfeasible : Feasible config (stops config.functionName (indexOf (callText word body ending))
      Guard.traversal.levels (callTree (composed (String.ofList word)) key (callSpan word body))) := by
    refine feasible_of_sites hwell.located fun t ht => ?_
    rw [hsites] at ht
    split at ht
    · rw [List.mem_singleton.mp ht, hkey]
      exact hanswers
    · cases ht
  obtain ⟨m, hm, houtput, hdependencies⟩ := body_of_feasible config hwell hfeasible id
    (String.ofList (callText word body ending)) []
  refine ⟨m, s, r, ?_, hkey, htext, (Except.ok.inj hrange).symm, hr, ?_, houtput⟩
  · rw [bodyOf_of_tree config files id (treeOf?_callText hword hbody hending hkeyword)]
    unfold scanOf markOf
    rw [textOf_ofList hmark, String.toList_ofList, splitMark_of_unmarked hmark]
    exact hm
  · rw [hdependencies, hsites]
    have hfill : fill? config s = some (Substitution.of r.value s r.outcome) :=
      fill?_eq_some_iff.mpr ⟨r, hr, rfl⟩
    split
    · rw [List.filterMap_cons, hfill]
      rfl
    · rfl

end Folded

/-- A module that is a call of the accepted name with a key is built in any compilation that has this
name. The call is folded just if the name is its own composed form: its literal is then that of what the
key is resolved to, and it is all of the output but the end of the line. Otherwise the output is the
source. -/
theorem folded_iff_composed {primary fallback : Given} {name : String} {config : Config}
    (hconfig : Config.of primary fallback (.text name) = .ok config) {key : String}
    (hanswers : config.Answers key) {body ending : List Char} (hbody : Spells body key)
    (hending : ending = [] ∨ ending = ['\n']) {c : Compilation} (hc : c.config = config) (id : String) :
    ∃ m, (c.buildModule id (String.ofList (callText name.toList body ending))).2 = .ok m ∧
      (m.dependencies ≠ [] ↔ composed name = name) ∧
      (composed name = name → ∃ d r, m.dependencies = [d] ∧ d.key = key ∧
        resolved config ⟨key, key, none⟩ = .ok r ∧ d.encoded = literal r.value ∧
        m.output = String.ofList (d.encoded.toList ++ ending)) ∧
      (composed name ≠ name → m.output = String.ofList (callText name.toList body ending)) := by
  obtain ⟨hfunction, hword, hkeyword⟩ := Config.of_text hconfig
  have hkeyword : isKeyword (String.ofList name.toList) = false := by rwa [String.ofList_toList]
  obtain ⟨m, s, r, hm, hkey, htext, hrange, hr, hdependencies, houtput⟩ :=
    bodyOf_callText hword hkeyword hbody hending hanswers c.files id
  rw [String.ofList_toList, hfunction] at hdependencies
  obtain ⟨records, hbuild⟩ : ∃ records,
      (c.buildModule id (String.ofList (callText name.toList body ending))).2 =
        .ok (m.withRecords records) := by
    obtain ⟨w, -, hrun⟩ := Compilation.buildModule_run c id
    exact ⟨_, by rw [hrun, hc, hm]; rfl⟩
  refine ⟨m.withRecords records, hbuild, ?_, fun hname => ?_, fun hname => ?_⟩
  · show m.dependencies ≠ [] ↔ _
    rw [hdependencies]
    split <;> simp [*]
  · rw [if_pos hname] at hdependencies
    have hmiss : resolved config s.miss = resolved config ⟨key, key, none⟩ := by
      rw [CallSite.miss, hkey, htext]
      rfl
    refine ⟨_, r, hdependencies, hkey, hmiss ▸ hr, rfl, ?_⟩
    show m.output = _
    rw [houtput, hdependencies, replaced_callText _ _ _ rfl hrange]
  · rw [if_neg hname] at hdependencies
    show m.output = _
    exact output_of_unfolded hm hdependencies


/-- A map of one key. -/
def keyMap : List (String × Value) := [("k", .text "v")]

/-- What makes calls of a name take their texts from this map. -/
def nameConfig (name : String) : Config :=
  { primary := some (.ofMap "localization" keyMap), functionName := name }

theorem of_nameConfig {name : String} (h : Config.isFunctionName name = true) :
    Config.of (.value (.map keyMap)) .nothing (.text name) = .ok (nameConfig name) := by
  show (if Config.isFunctionName name = true then _ else _) = _
  rw [if_pos h]
  rfl

theorem answers_nameConfig (name : String) : (nameConfig name).Answers "k" := by
  constructor
  · intro source hsource
    cases hsource
    refine ⟨some (.text "v"), rfl, ?_⟩
    intro value hvalue
    cases hvalue
    rfl
  · intro source hsource
    cases hsource

/-- A name that begins a statement where no call follows. -/
theorem folded_iff_composed_match :
    Config.of (.value (.map keyMap)) .nothing (.text "match") = .ok (nameConfig "match") ∧
      (nameConfig "match").Answers "k" ∧ Spells ['k'] "k" ∧ composed "match" = "match" ∧
      ∃ m, ((Compilation.fresh (nameConfig "match") []).buildModule "a.py" "match(\"k\")\n").2 = .ok m ∧
        m.dependencies ≠ [] ∧ m.output = "\"v\"\n" := by
  have hname : Config.isFunctionName "match" = true := by decide +kernel
  have hspells : Spells ['k'] "k" := spells_written "k"
  have hcomposed : composed "match" = "match" := by decide +kernel
  obtain ⟨m, hm, hiff, hfolded, -⟩ := folded_iff_composed (of_nameConfig hname) (answers_nameConfig _) hspells
    (.inr rfl) (c := Compilation.fresh (nameConfig "match") []) rfl "a.py"
  obtain ⟨d, r, -, -, hr, hencoded, houtput⟩ := hfolded hcomposed
  cases hr
  rw [hencoded] at houtput
  exact ⟨of_nameConfig hname, answers_nameConfig _, hspells, hcomposed, m, hm, hiff.mpr hcomposed, houtput⟩

/-- The feminine ordinal is accepted as a name, and a call of it with a key that the map has is not
folded, as it is read as a call of another name. -/
theorem buildModule_ordinal :
    Config.of (.value (.map keyMap)) .nothing (.text "\u00aa") = .ok (nameConfig "\u00aa") ∧
      ((Compilation.fresh (nameConfig "\u00aa") []).buildModule "a.py" "\u00aa('k')\n").2.toOption.map
        (fun m => (m.dependencies.length, m.output, m.changed)) = some (0, "\u00aa('k')\n", false) :=
  ⟨of_nameConfig (by decide +kernel), by decide +kernel⟩

end Localize
