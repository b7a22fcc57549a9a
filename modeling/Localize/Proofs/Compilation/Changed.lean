/-
  When a build has changed a text. Rendering keeps a text up to the first range that it replaces, and
  there it puts the double quote of a literal (`getElem?_render`). A call of the localization function
  begins with its name or with a parenthesis, so at this place the text had another character. Whatever
  the literals are and however long, a module has thus changed just if a call in it was folded
  (`changed_iff_folded`).
-/
import Localize.Proofs.Compilation.Settled
import Localize.Proofs.Fold.Literal

namespace Localize

open Syntax

/-! ## The first difference -/

/-- At the start of a range that is replaced first, what is rendered has the first character of its
literal. -/
theorem Substitution.getElem?_render {text rendered : List Char} {ss : List Substitution} {c : Char}
    (h : render text ss = .ok rendered) (hne : ss ≠ [])
    (hstarts : ∀ s ∈ ss, ∃ tail, s.encoded.toList = c :: tail) :
    ∃ s ∈ ss, rendered[s.range.start]? = some c := by
  have hperm : (sortByStart ss).Perm ss := sortBy_perm _ ss
  unfold render at h
  dsimp only at h
  rcases hcheck : check text.length none (sortByStart ss) with f | u
  · rw [hcheck] at h
    cases h
  · have hinside := (check_eq_ok_iff.mp hcheck).1
    rw [hcheck] at h
    cases h
    rcases hsorted : sortByStart ss with _ | ⟨s, rest⟩
    · rw [hsorted] at hperm
      exact absurd hperm.nil_eq.symm hne
    · have hs : s ∈ ss := hperm.mem_iff.mp (hsorted ▸ List.mem_cons_self)
      obtain ⟨tail, htail⟩ := hstarts s hs
      have hstart : s.range.start ≤ text.length :=
        s.range.start_le_stop.trans (hinside s (hsorted ▸ List.mem_cons_self)).2
      have hlength : (slice text 0 s.range.start).length = s.range.start := length_slice hstart
      refine ⟨s, hs, ?_⟩
      rw [splice, htail, List.append_assoc, List.getElem?_append_right hlength.le, hlength,
        Nat.sub_self]
      rfl

/-! ## Calls -/

/-- The character that a span begins with, if it has a place in the text. -/
def LineIndex.first? (index : LineIndex) (span : Span) : Option Char :=
  (index.rangeOfSpan span).toOption.bind fun range => index.text[range.start]?

theorem LineIndex.first?_of_range {index : LineIndex} {span : Span} {range : TextRange}
    (h : index.rangeOfSpan span = .ok range) : index.first? span = index.text[range.start]? := by
  unfold first?
  rw [h]
  rfl

/-- No call of a bare name begins with a double quote. -/
def Syntax.Node.Unquoting (tree : Node) (index : LineIndex) : Prop :=
  ∀ path name arguments keywords span,
    tree.at? path = some (.call (.name name) arguments keywords span) → index.first? span ≠ some '"'

section Body

variable {config : Config} {files : List (String × Text.Bytes)} {id source : String} {m : Module}
  {index : LineIndex} {tree : Node}

/-- Where a call is folded, no double quote began in the text. -/
theorem not_quoted_of_site (hquotes : tree.Unquoting index) {levels : Nat} {s : CallSite}
    (hs : s ∈ sites config.functionName index levels tree) :
    index.text[s.range.start]? ≠ some '"' := by
  obtain ⟨path, hfolded⟩ := exists_foldedAt hs
  obtain ⟨node, hpath, hsite⟩ := hfolded.site
  obtain ⟨callee, arguments, keywords, span, rfl, hcall, -, hrange, -⟩ := CallSite.of?_eq_some hsite
  unfold Node.isLocalizationCall Node.callsName at hcall
  cases callee with
  | name id =>
    rw [← index.first?_of_range hrange]
    exact hquotes path id arguments keywords span hpath
  | _ => simp at hcall

/-- The output of a module is what its substitutions make of the text, behind the mark. -/
theorem output_of_moduleOf {mark text : List Char} {scan : Scan}
    (h : moduleOf id source mark text index scan = .ok m) :
    ∃ rendered, Substitution.render text m.dependencies = .ok rendered ∧
      m.output = String.ofList (mark ++ rendered) := by
  unfold moduleOf at h
  dsimp only at h
  rcases hnesting : nestingErrors id index scan.guard.limit scan.skipped.reverse with e | errors
  · rw [hnesting] at h
    cases h
  · rcases hrender : Substitution.render text scan.substitutions.reverse with f | rendered
    · rw [hnesting, hrender] at h
      cases h
    · rw [hnesting, hrender] at h
      cases h
      exact ⟨rendered, hrender, rfl⟩

/-- A folded call makes the output another text. -/
theorem output_ne_of_folded (h : bodyOf config files id source = .ok m)
    (hread : treeOf? source = some tree) (hquotes : tree.Unquoting (indexOf (textOf source)))
    (hfolded : m.dependencies ≠ []) : m.output ≠ source := by
  obtain ⟨hending, hmodule⟩ := moduleOf_of_bodyOf hread h
  obtain ⟨-, hdependencies, -⟩ := body_of_moduleOf hmodule
  obtain ⟨-, hfilled, -⟩ := Yield.of_feasible (feasible_of_ending hending)
  rw [Yield.substitutions_start, scanOf, hfilled] at hdependencies
  obtain ⟨rendered, hrender, houtput⟩ := output_of_moduleOf hmodule
  have hsites : ∀ d ∈ m.dependencies, ∃ s ∈ sites config.functionName (indexOf (textOf source))
      Guard.traversal.levels tree, fill? config s = some d := by
    intro d hd
    rw [hdependencies] at hd
    exact List.mem_filterMap.mp hd
  have hliterals : ∀ d ∈ m.dependencies, ∃ tail, d.encoded.toList = '"' :: tail := by
    intro d hd
    obtain ⟨s, -, hfill⟩ := hsites d hd
    obtain ⟨r, -, rfl⟩ := fill?_eq_some_iff.mp hfill
    exact literal_eq_cons r.value
  obtain ⟨d, hd, hquote⟩ := Substitution.getElem?_render hrender hfolded hliterals
  obtain ⟨s, hs, hfill⟩ := hsites d hd
  rw [(range_of_fill? hfill).1] at hquote
  intro hsame
  have htext : rendered = textOf source := by
    rw [houtput, ← String.toList_inj, String.toList_ofList, ← markOf_append_textOf source] at hsame
    exact List.append_cancel_left hsame
  rw [htext] at hquote
  exact not_quoted_of_site hquotes hs hquote

/-- The body of a source is another text than the source just if a call in it was folded. -/
theorem output_ne_iff (h : bodyOf config files id source = .ok m)
    (hquotes : ∀ tree, treeOf? source = some tree → tree.Unquoting (indexOf (textOf source))) :
    m.output ≠ source ↔ m.dependencies ≠ [] := by
  constructor
  · exact mt (output_of_unfolded h)
  · intro hfolded
    rcases hread : treeOf? source with _ | tree
    · obtain ⟨reason, location, hbody⟩ :=
        bodyOf_of_unread config files id (not_null_of_bodyOf h) hread
      rw [hbody] at h
      cases h
      exact absurd rfl hfolded
    · exact output_ne_of_folded h hread (hquotes tree hread) hfolded

end Body

/-! ## Modules -/

namespace Compilation

/-- Whatever calls were made before, a module that a call returns has changed just if a call in it was
folded. -/
theorem changed_iff_folded (config : Config) (files : List (String × Text.Bytes)) {calls : List Call}
    {call : Call} {ms : List Module}
    (hids : ∀ call' ∈ call :: calls, (call'.sources.map Prod.fst).Nodup)
    (hok : (call.run ((fresh config files).after calls)).2 = .ok ms) :
    List.Forall₂ (fun job m =>
      (∀ tree, treeOf? job.2 = some tree → tree.Unquoting (indexOf (textOf job.2))) →
        (m.changed = true ↔ m.dependencies ≠ [])) call.sources ms := by
  obtain ⟨hcall, hcalls⟩ := List.forall_mem_cons.mp hids
  have htidy := after_tidy (c := fresh config files) Aggregator.tidy_empty hcalls
  refine ((run_done htidy hcall).1.built ms hok).imp fun job m hbuilt hquotes => ?_
  obtain ⟨body, w, hbody, rfl⟩ := hbuilt.body
  have hsource : body.source = job.2 := (Module.IsBody.of_bodyOf hbody).source
  show decide (body.output ≠ body.source) = true ↔ body.dependencies ≠ []
  rw [decide_eq_true_iff, hsource]
  exact output_ne_iff hbody hquotes

end Compilation

/-- None of the calls in the sample begins with a double quote. -/
theorem unquoting_sample :
    ∀ tree, treeOf? sample = some tree → tree.Unquoting (indexOf (textOf sample)) := by
  have hcalls : ((treeOf? sample).map fun tree => (tree.exceeds 8, (tree.callsTo 8).map fun call =>
      (indexOf (textOf sample)).first? call.2)) =
      some (false, [some '_', some 'p', some '_', some '_']) := by decide +kernel
  intro tree hread path name arguments keywords span hcall hquote
  rw [hread] at hcalls
  obtain ⟨hdeep, hstarts⟩ := Prod.mk.inj (Option.some.inj hcalls)
  have hmem := Node.mem_callsTo hdeep ⟨_, arguments, keywords, hcall⟩
  have hstart := List.mem_map_of_mem (f := fun call => (indexOf (textOf sample)).first? call.2) hmem
  rw [hstarts] at hstart
  dsimp only at hstart
  rw [hquote] at hstart
  revert hstart
  decide

/-- The sample has changed, as calls in it are folded. -/
theorem Compilation.changed_iff_folded_sample :
    ∃ m, ((Call.one "a.py" sample).run ((fresh sampleConfig []).after [])).2 = .ok [m] ∧
      (∀ tree, treeOf? sample = some tree → tree.Unquoting (indexOf (textOf sample))) ∧
      (m.changed = true ↔ m.dependencies ≠ []) ∧ m.changed = true := by
  have hids : ∀ call ∈ [Call.one "a.py" sample], (call.sources.map Prod.fst).Nodup := by decide
  have hchanged : ((Call.one "a.py" sample).run ((fresh sampleConfig []).after [])).2.toOption.map
      (List.map Module.changed) = some [true] := by decide +kernel
  rcases hrun : ((Call.one "a.py" sample).run ((fresh sampleConfig []).after [])).2 with f | ms
  · rw [hrun] at hchanged
    cases hchanged
  · have hiff := changed_iff_folded sampleConfig [] hids hrun
    rw [hrun] at hchanged
    cases hiff with
    | cons hm hnil =>
      cases hnil
      exact ⟨_, rfl, unquoting_sample, hm unquoting_sample,
        List.head_eq_of_cons_eq (Option.some.inj hchanged)⟩

end Localize
