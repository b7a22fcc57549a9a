/-
  What sealing does to the values of a source. A key leads to the same place in sealed maps as in the
  maps themselves, and finds the sealed value there (`follow_sealed`). The JSON text of data is kept
  by sealing just where no map is in it (`write_sealed_eq_iff`): the shown text of a sealed map
  begins with a quote where the map itself has a brace. So a call whose key a source of maps has is
  folded to the literal of the data, which a function that returns the data would give, just where
  the data holds no map (`encoded_of_map`); a map is not (`encoded_of_nested_map`).
-/
import Localize.Proofs.Compilation.Body
import Localize.Proofs.Fold.Literal

namespace Localize

open Source (follow step item?)

/-! ## Data and maps in it -/

/-- Data of a JSON text: nothing in it is sealed. -/
inductive Value.IsData : Value → Prop
  | null : IsData .null
  | bool (b : Bool) : IsData (.bool b)
  | int (n : Int) : IsData (.int n)
  | real (x : Double) : IsData (.real x)
  | text (s : String) : IsData (.text s)
  | list {items : List Value} (parts : ∀ v ∈ items, IsData v) : IsData (.list items)
  | map {entries : List (String × Value)} (parts : ∀ e ∈ entries, IsData e.2) : IsData (.map entries)

/-- Values that are maps or have one in a list, at any depth. -/
inductive Value.HoldsMap : Value → Prop
  | map (entries : List (String × Value)) : HoldsMap (.map entries)
  | item {items : List Value} {v : Value} (mem : v ∈ items) (holds : HoldsMap v) : HoldsMap (.list items)

theorem Value.holdsMap_list_iff {items : List Value} :
    HoldsMap (.list items) ↔ ∃ v ∈ items, HoldsMap v := by
  constructor
  · rintro (_ | ⟨hv, h⟩)
    exact ⟨_, hv, h⟩
  · rintro ⟨v, hv, h⟩
    exact .item hv h

/-! ## Keys in sealed values -/

theorem Value.sealedItems_eq_map (items : List Value) : sealedItems items = items.map sealed := by
  induction items with
  | nil => rfl
  | cons v rest ih => rw [sealedItems, ih, List.map_cons]

theorem Value.valueAt?_sealedEntries (key : String) (entries : List (String × Value)) :
    valueAt? key (sealedEntries entries) = (valueAt? key entries).map sealed := by
  induction entries with
  | nil => rfl
  | cons e rest ih =>
    obtain ⟨k, v⟩ := e
    rw [sealedEntries, valueAt?, valueAt?]
    split
    · rfl
    · exact ih

theorem Source.item?_sealedItems (items : List Value) (segment : String) :
    item? (Value.sealedItems items) segment =
      (item? items segment).map (Option.map Value.sealed) := by
  unfold item?
  split
  · rfl
  · split
    · rfl
    · rw [Value.sealedItems_eq_map, List.getElem?_map]
      rfl

theorem Source.step_sealed (v : Value) (segment : String) :
    step v.sealed segment = (step v segment).map (Option.map Value.sealed) := by
  cases v with
  | list items => exact item?_sealedItems items segment
  | tuple items => exact item?_sealedItems items segment
  | map entries => exact congrArg Except.ok (Value.valueAt?_sealedEntries segment entries)
  | view entries => exact congrArg Except.ok (Value.valueAt?_sealedEntries segment entries)
  | _ => rfl

/-- Segments lead through a sealed value as they lead through the value. -/
theorem Source.follow_sealed (v : Value) (segments : List String) :
    follow v.sealed segments = (follow v segments).map (Option.map Value.sealed) := by
  induction segments generalizing v with
  | nil => rfl
  | cons segment rest ih =>
    rw [follow, follow, step_sealed]
    rcases step v segment with f | (_ | next)
    · rfl
    · rfl
    · exact ih next

/-- A source of maps answers a key with the sealed form of what the maps have there. -/
theorem Source.resolve_ofMap {entries : List (String × Value)} {key : String} {v : Value}
    (hv : follow (.map entries) (Key.segments key) = .ok (some v)) (hne : v ≠ .null) (name : String) :
    (ofMap name entries).resolve key = .ok (some v.sealed) := by
  have hfollow := follow_sealed (.map entries) (Key.segments key)
  rw [hv] at hfollow
  have hdefined : defined v.sealed = some v.sealed := by
    cases v with
    | null => exact absurd rfl hne
    | _ => rfl
  show (do return (← follow (Value.sealed (.map entries)) (Key.segments key)).bind defined) = _
  rw [hfollow]
  exact congrArg Except.ok hdefined

/-- A function answers a key with what it returns. -/
theorem Source.resolve_function {lookup : String → Except LookupFault Value} {key : String}
    {v : Value} (hv : lookup key = .ok v) (hne : v ≠ .null) (name : String) :
    (Source.function name lookup).resolve key = .ok (some v) := by
  have hdefined : defined v = some v := by
    cases v with
    | null => exact absurd rfl hne
    | _ => rfl
  show (do return defined (← lookup key)) = _
  rw [hv]
  exact congrArg Except.ok hdefined

/-! ## The text of sealed data -/

namespace Json

/-- Texts that are the same up to a place where one has a brace and the other one a quote. -/
def PartAtBrace (a b : List Char) : Prop :=
  ∃ front rest rest', a = front ++ '\x7b' :: rest ∧ b = front ++ '"' :: rest'

theorem PartAtBrace.ne {a b : List Char} (h : PartAtBrace a b) : a ≠ b := by
  obtain ⟨front, rest, rest', rfl, rfl⟩ := h
  intro heq
  exact absurd (List.cons.inj (List.append_cancel_left heq)).1 (by decide)

theorem PartAtBrace.within {a b : List Char} (h : PartAtBrace a b) (front back back' : List Char) :
    PartAtBrace (front ++ (a ++ back)) (front ++ (b ++ back')) := by
  obtain ⟨start, rest, rest', rfl, rfl⟩ := h
  exact ⟨front ++ start, rest ++ back, rest' ++ back', by simp, by simp⟩

theorem writeItems_congr {vs ws : List Value} (h : vs.map write = ws.map write) :
    writeItems vs = writeItems ws := by
  induction vs generalizing ws with
  | nil =>
    rw [List.map_nil, eq_comm, List.map_eq_nil_iff] at h
    rw [h]
  | cons v vs ih =>
    rcases ws with _ | ⟨w, ws⟩
    · cases h
    · obtain ⟨hvw, hrest⟩ := List.cons.inj h
      have hrests := ih hrest
      rcases vs with _ | ⟨v', vs⟩
      · rcases ws with _ | ⟨w', ws⟩
        · rw [writeItems, writeItems, hvw]
        · cases hrest
      · rcases ws with _ | ⟨w', ws⟩
        · cases hrest
        · apply String.toList_inj.mp
          rw [toList_writeItems_cons, toList_writeItems_cons, hvw, hrests]

/-- The first item that holds a map is where the texts of a list and of its sealed form part. -/
theorem writeItems_sealed {items : List Value}
    (hkept : ∀ v ∈ items, ¬ v.HoldsMap → write v.sealed = write v)
    (hparts : ∀ v ∈ items, v.HoldsMap → PartAtBrace (write v).toList (write v.sealed).toList)
    (h : ∃ v ∈ items, v.HoldsMap) :
    PartAtBrace (writeItems items).toList (writeItems (Value.sealedItems items)).toList := by
  induction items with
  | nil =>
    obtain ⟨v, hv, -⟩ := h
    cases hv
  | cons v others ih =>
    by_cases hfirst : v.HoldsMap
    · have hpart := hparts v List.mem_cons_self hfirst
      rcases others with _ | ⟨w, others⟩
      · exact hpart
      · rw [Value.sealedItems, Value.sealedItems, toList_writeItems_cons, toList_writeItems_cons]
        exact hpart.within [] _ _
    · have hsame := hkept v List.mem_cons_self hfirst
      have hlater : ∃ w ∈ others, w.HoldsMap := by
        obtain ⟨w, hw, hholds⟩ := h
        rcases List.mem_cons.mp hw with rfl | hw
        · exact absurd hholds hfirst
        · exact ⟨w, hw, hholds⟩
      have hrest := ih (fun w hw => hkept w (List.mem_cons_of_mem _ hw))
        (fun w hw => hparts w (List.mem_cons_of_mem _ hw)) hlater
      rcases others with _ | ⟨w, others⟩
      · obtain ⟨w, hw, -⟩ := hlater
        cases hw
      · rw [Value.sealedItems] at hrest
        rw [Value.sealedItems, Value.sealedItems, toList_writeItems_cons, toList_writeItems_cons,
          hsame]
        simpa using hrest.within ((write v).toList ++ [',', ' ']) [] []

/-- Sealing data keeps its text where no map is in it, and else changes it at the first map. -/
theorem write_sealed {v : Value} (h : v.IsData) :
    (¬ v.HoldsMap → write v.sealed = write v) ∧
      (v.HoldsMap → PartAtBrace (write v).toList (write v.sealed).toList) := by
  induction h with
  | @list items parts ih =>
    have hwrite : write (Value.list items) = "[" ++ writeItems items ++ "]" := by rw [write]
    have hsealed : write (Value.list items).sealed =
        "[" ++ writeItems (Value.sealedItems items) ++ "]" := by rw [Value.sealed, write]
    rw [hwrite, hsealed, Value.holdsMap_list_iff]
    constructor
    · intro hnone
      have hsame : writeItems (Value.sealedItems items) = writeItems items := by
        apply writeItems_congr
        rw [Value.sealedItems_eq_map, List.map_map]
        exact List.map_congr_left fun v hv => (ih v hv).1 fun hholds => hnone ⟨v, hv, hholds⟩
      rw [hsame]
    · intro hsome
      have hpart := writeItems_sealed (fun v hv => (ih v hv).1) (fun v hv => (ih v hv).2) hsome
      simpa using hpart.within ['['] [']'] [']']
  | @map entries parts ih =>
    refine ⟨fun hnone => absurd (.map entries) hnone, fun _ => ⟨[], ?_⟩⟩
    rw [Value.sealed, write, write, toList_string]
    exact ⟨(writeEntries entries ++ "\x7d").toList, _, by simp, rfl⟩
  | _ =>
    refine ⟨fun _ => rfl, fun hholds => ?_⟩
    cases hholds

theorem write_sealed_eq_iff {v : Value} (h : v.IsData) :
    write v.sealed = write v ↔ ¬ v.HoldsMap := by
  constructor
  · intro heq hholds
    exact ((write_sealed h).2 hholds).ne (congrArg String.toList heq.symm)
  · exact (write_sealed h).1

theorem string_inj {a b : String} (h : string a = string b) : a = b := by
  have ha := read_string a
  rw [h, read_string b] at ha
  exact (Value.text.inj (Except.ok.inj ha)).symm

end Json

/-! ## The literal of sealed data -/

theorem Value.sealed_ne_text {v : Value} (h : ∀ s, v ≠ .text s) (s : String) : v.sealed ≠ .text s := by
  cases v with
  | text s' => exact absurd rfl (h s')
  | _ => nofun

/-- The literal of other data than a text is kept by sealing just where no map is in it. -/
theorem literal_sealed_eq_iff {v : Value} (h : v.IsData) (htext : ∀ s, v ≠ .text s) :
    literal v.sealed = literal v ↔ ¬ v.HoldsMap := by
  rw [literal_of_ne_text htext, literal_of_ne_text (Value.sealed_ne_text htext),
    ← Json.write_sealed_eq_iff h]
  exact ⟨Json.string_inj, congrArg Json.string⟩

/-- A literal denotes one text only. -/
theorem Denotes.unique {encoded a b : String} (ha : Denotes encoded a) (hb : Denotes encoded b) :
    a = b := by
  have h := ha.source.symm.trans hb.source
  exact Syntax.Node.text.inj (Except.ok.inj h)

theorem denotes_sealed_iff {v : Value} (h : v.IsData) (htext : ∀ s, v ≠ .text s) :
    Denotes (literal v.sealed) (Json.write v) ↔ ¬ v.HoldsMap := by
  have hsealed : Denotes (literal v.sealed) (Json.write v.sealed) := by
    rw [literal_of_ne_text (Value.sealed_ne_text htext)]
    exact denotes_string _
  rw [← Json.write_sealed_eq_iff h]
  constructor
  · exact fun hdenotes => hsealed.unique hdenotes
  · intro heq
    rwa [heq] at hsealed

/-! ## Whether sealed values are written -/

namespace Json

mutual

/-- Sealing leaves all integers where they are, so it makes no difference to whether a value is written. -/
theorem isWritten_sealed : ∀ v : Value, isWritten v.sealed = isWritten v
  | .list items => itemsWritten_sealed items
  | .tuple items => itemsWritten_sealed items
  | .map entries => entriesWritten_sealed entries
  | .view entries => entriesWritten_sealed entries
  | .null | .bool _ | .int _ | .real _ | .text _ => rfl

theorem itemsWritten_sealed : ∀ items : List Value,
    itemsWritten (Value.sealedItems items) = itemsWritten items
  | [] => rfl
  | v :: rest => by
    rw [Value.sealedItems, itemsWritten, itemsWritten, isWritten_sealed v, itemsWritten_sealed rest]

theorem entriesWritten_sealed : ∀ entries : List (String × Value),
    entriesWritten (Value.sealedEntries entries) = entriesWritten entries
  | [] => rfl
  | (k, v) :: rest => by
    rw [Value.sealedEntries, entriesWritten, entriesWritten, isWritten_sealed v,
      entriesWritten_sealed rest]

end

end Json

/-! ## What takes the place of a call -/

/-- The sources whose answer for a key counts: the first one, and the fallback where the first one has no
value. -/
def Config.Consults (config : Config) (key : String) (source : Source) : Prop :=
  config.primary = some source ∨
    ∃ first, config.primary = some first ∧ first.resolve key = .ok none ∧
      config.fallback = some source

theorem resolved_of_consults {config : Config} {m : Miss} {source : Source} {v : Value}
    (h : config.Consults m.key source) (hv : source.resolve m.key = .ok (some v)) :
    ∃ outcome, resolved config m = .ok ⟨v, outcome⟩ := by
  unfold resolved resolvedOther
  rcases h with hprimary | ⟨first, hprimary, hlacks, hfallback⟩
  · rw [hprimary]
    dsimp only
    rw [hv]
    exact ⟨.primary, rfl⟩
  · rw [hprimary, hfallback]
    dsimp only
    rw [hlacks]
    dsimp only
    rw [hv]
    exact ⟨.fallback, rfl⟩

namespace Compilation

section Build

variable {c : Compilation} {id source : String} {m : Module} {d : Substitution} {v : Value}

/-- What takes the place of a call is the literal of what a source has for its key. -/
theorem encoded_of_consults {answering : Source} (h : c.config.Consults d.key answering)
    (hv : answering.resolve d.key = .ok (some v))
    (hbuild : (c.buildModule id source).2 = .ok m) (hd : d ∈ m.dependencies) :
    d.encoded = literal v := by
  obtain ⟨body, w, hbody, rfl⟩ := body_of_buildModule hbuild
  obtain ⟨s, r, hr, rfl⟩ := resolved_of_mem_dependencies hbody hd
  obtain ⟨outcome, hfound⟩ := resolved_of_consults (m := s.miss) h hv
  cases hr.symm.trans hfound
  rfl

/-- What takes the place of a call whose key a source of maps has. It is the literal of the sealed data,
and so the literal of the data, from which its JSON text is read, just where the data holds no map. A
function that returns the data gives that literal always. -/
theorem encoded_of_map {name : String} {entries : List (String × Value)}
    (h : c.config.Consults d.key (.ofMap name entries))
    (hv : follow (.map entries) (Key.segments d.key) = .ok (some v)) (hdata : v.IsData)
    (hnull : v ≠ .null) (htext : ∀ s, v ≠ .text s)
    (hbuild : (c.buildModule id source).2 = .ok m) (hd : d ∈ m.dependencies) :
    d.encoded = literal v.sealed ∧
      (d.encoded = literal v ↔ ¬ v.HoldsMap) ∧
      (Denotes d.encoded (Json.write v) ↔ ¬ v.HoldsMap) ∧
      ∀ (c' : Compilation) (name' : String) (lookup : String → Except LookupFault Value)
        (id' source' : String) (m' : Module) (d' : Substitution),
        c'.config.Consults d.key (.function name' lookup) → lookup d.key = .ok v →
        (c'.buildModule id' source').2 = .ok m' → d' ∈ m'.dependencies → d'.key = d.key →
        d'.encoded = literal v := by
  have hencoded := encoded_of_consults h (Source.resolve_ofMap hv hnull name) hbuild hd
  refine ⟨hencoded, ?_, ?_, ?_⟩
  · rw [hencoded]
    exact literal_sealed_eq_iff hdata htext
  · rw [hencoded]
    exact denotes_sealed_iff hdata htext
  · intro c' name' lookup id' source' m' d' h' hlookup hbuild' hd' hkey
    rw [← hkey] at h' hlookup
    exact encoded_of_consults h' (Source.resolve_function hlookup hnull name') hbuild' hd'

end Build

/-- A source of maps with a list in a list under its key. -/
def listed : Config where
  primary := some (.ofMap "mapping" [("a", .list [.int 1, .list [.bool true]])])

/-- The list takes the place of the call as the literal of its JSON text. -/
theorem encoded_of_map_listed :
    ∃ m d, ((fresh listed []).buildModule "a.py" "x = __('a')\n").2 = .ok m ∧ d ∈ m.dependencies ∧
      d.encoded = literal (.list [.int 1, .list [.bool true]]) := by
  have hdata : (Value.list [.int 1, .list [.bool true]]).IsData := by
    refine .list fun v hv => ?_
    rcases List.mem_pair.mp hv with rfl | rfl
    · exact .int 1
    · exact .list fun v hv => List.mem_singleton.mp hv ▸ .bool true
  have hmaps : ¬ (Value.list [.int 1, .list [.bool true]]).HoldsMap := by
    rintro (_ | ⟨hv, hholds⟩)
    rcases List.mem_pair.mp hv with rfl | rfl
    · cases hholds
    · obtain ⟨v, hv, hholds⟩ := Value.holdsMap_list_iff.mp hholds
      rw [List.mem_singleton.mp hv] at hholds
      cases hholds
  have hsegments : Key.segments "a" = ["a"] := by decide +kernel
  have hkeys : ((fresh listed []).buildModule "a.py" "x = __('a')\n").2.toOption.map
      (·.dependencies.map Substitution.key) = some ["a"] := by decide +kernel
  rcases hbuild : ((fresh listed []).buildModule "a.py" "x = __('a')\n").2 with f | m
  · rw [hbuild] at hkeys
    cases hkeys
  · rw [hbuild] at hkeys
    obtain ⟨d, hdependencies, hkey⟩ := List.map_eq_singleton_iff.mp (Option.some.inj hkeys)
    have hd : d ∈ m.dependencies := hdependencies ▸ List.mem_singleton_self d
    refine ⟨m, d, rfl, hd, ?_⟩
    have hencoded := encoded_of_map (c := fresh listed []) (.inl rfl)
      (by rw [hkey, hsegments]; rfl) hdata nofun nofun hbuild hd
    exact hencoded.2.1.mpr hmaps

/-- A source of maps with a map under its key. -/
def nested : Config where
  primary := some (.ofMap "mapping" [("a", .map [("b", .int 1)])])

/-- A map does not take the place of a call as the literal of its JSON text. -/
theorem encoded_of_nested_map :
    ((fresh nested []).buildModule "a.py" "x = __('a')\n").2.toOption.map
        (·.dependencies.map fun d => (d.key, d.encoded)) =
      some [("a", "\"\\\"\x7b'b': 1\x7d\\\"\"")] ∧
    literal (.map [("b", .int 1)]) = "\"\x7b\\\"b\\\": 1\x7d\"" := by
  decide +kernel

end Compilation

end Localize
