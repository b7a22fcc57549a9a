/-
  Literals. The one that takes the place of a call is read by two readers, as source code and as
  JSON, and both get the same text from it: a text itself, or the JSON text of any other data, from
  which the data comes back (`denotes_literal`).
-/
import Localize.Fold.Substitution
import Localize.Proofs.Json.Values
import Localize.Proofs.Syntax.Expression

namespace Localize

open Json (IsQuoted Plain)

/-- A literal between double quotes of which every reader gets a certain text. -/
structure Denotes (encoded text : String) : Prop where
  quoted : IsQuoted encoded.toList
  /-- What a substitution with this literal says that it denotes. -/
  value : ∀ s : Substitution, s.encoded = encoded → s.value = .ok (.text text)
  /-- What source code makes of it. -/
  source : Syntax.parseExpression encoded.toList = .ok (.text text)

theorem parseExpression_string (text : String) :
    Syntax.parseExpression (Json.string text).toList = .ok (.text text) := by
  rw [Json.toList_string, Syntax.parseExpression_literal (Json.isClosed_written _)
    (Json.not_mem_written (by decide) _) (Json.not_mem_written (by decide) _)
    (Syntax.unescape_written _), String.ofList_toList]

theorem denotes_string (text : String) : Denotes (Json.string text) text where
  quoted := Json.isQuoted_string text
  value := by
    rintro s hs
    rw [Substitution.value, hs, Json.read_string]
  source := parseExpression_string text

/-- Whatever its value is, a literal is one quoted string. -/
theorem isQuoted_literal (value : Value) : IsQuoted (literal value).toList := by
  cases value with
  | text s => exact Json.isQuoted_string s
  | _ => exact Json.isQuoted_string _

/-- A literal begins with a double quote. -/
theorem literal_eq_cons (value : Value) : ∃ tail, (literal value).toList = '"' :: tail := by
  obtain ⟨body, hbody, -⟩ := (isQuoted_literal value).quotes
  exact ⟨body ++ ['"'], hbody⟩

/-- Other data than a text is written twice, as JSON and as the text that this is. -/
theorem literal_of_ne_text {v : Value} (h : ∀ s, v ≠ .text s) : literal v = Json.string (Json.write v) := by
  cases v with
  | text s => exact absurd rfl (h s)
  | _ => rfl

/-- Both readers get a text from its literal. From the literal of other data both get one text, which
is JSON of the data. -/
theorem denotes_literal :
    (∀ s, Denotes (literal (.text s)) s) ∧
    ∀ v, Plain v → (∀ s, v ≠ .text s) →
      Denotes (literal v) (Json.write v) ∧ Json.read (Json.write v) = .ok v := by
  refine ⟨denotes_string, fun v hplain hv => ⟨?_, Json.read_write hplain⟩⟩
  rw [literal_of_ne_text hv]
  exact denotes_string (Json.write v)

/-- A map with a list in it, and a text in the list that needs escapes. -/
theorem denotes_literal_nested :
    Denotes (literal (.map [("a", .list [.int (-3), .text "\"\\\n", .null]), ("b", .bool true)]))
        (Json.write (.map [("a", .list [.int (-3), .text "\"\\\n", .null]), ("b", .bool true)])) ∧
      Json.read (Json.write (.map [("a", .list [.int (-3), .text "\"\\\n", .null]),
          ("b", .bool true)])) =
        .ok (.map [("a", .list [.int (-3), .text "\"\\\n", .null]), ("b", .bool true)]) := by
  have hlist : Plain (.list [.int (-3), .text "\"\\\n", .null]) := by
    refine .list fun v hv => ?_
    simp only [List.mem_cons, List.not_mem_nil, or_false] at hv
    rcases hv with rfl | rfl | rfl
    · exact .int (-3) (by decide)
    · exact .text _
    · exact .null
  refine denotes_literal.2 _ (.map (by decide) fun e he => ?_) nofun
  simp only [List.mem_cons, List.not_mem_nil, or_false] at he
  rcases he with rfl | rfl
  · exact hlist
  · exact .bool true

end Localize
