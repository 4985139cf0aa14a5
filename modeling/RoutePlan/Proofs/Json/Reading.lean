import Mathlib.Data.List.TakeWhile
import RoutePlan.Proofs.Json.Grammar

/-! # Reading what the grammar allows

A text that stands for a value is read as that value, if the value does not nest too deep, and it
is skipped to the same end however deep it nests.
-/

namespace RoutePlan.Json

variable {v : Value} {items : List Value} {members : List (String × Value)} {key : String}
  {c : Char} {s after rest begin colon value w : List Char} {first : Bool} {depth fuel : Nat}

/-! ## Marks between values -/

theorem readColon_of_afterBlanks (h : AfterBlanks s (':' :: after)) :
    readColon s = .ok ((), after) := by
  simp only [readColon, h.skip rfl]

theorem closeList_of_afterBlanks (h : AfterBlanks s (']' :: after)) :
    closeList s = .ok ((), after) := by
  simp only [closeList, h.skip rfl]

theorem closeText_of_blanks (h : ∀ c ∈ s, isBlank c = true) : closeText s = .ok () := by
  simp [closeText, skipBlanks, List.dropWhile_eq_nil_iff.mpr h]

theorem atItem_close (h : AfterBlanks s (']' :: rest)) :
    atItem first s = .ok (false, ']' :: rest) := by
  simp only [atItem, h.skip rfl]

theorem atItem_comma (h : AfterBlanks s (',' :: begin)) :
    atItem false s = (match skipBlanks begin with
      | [] => .error .ended
      | ']' :: _ => .error .malformed
      | item => .ok (true, item)) := by
  rw [atItem, h.skip rfl]
  rfl

theorem Value.Leads.ne_bracket (h : v.Leads c) : c ≠ ']' := by
  rintro rfl
  cases v with
  | bool b => cases b <;> cases h
  | _ => cases h

/-- An item is found where its blanks are skipped. -/
theorem atItem_stands (h : Separated first s begin) (hv : Stands v begin after) :
    atItem first s = .ok (true, skipBlanks begin) := by
  obtain ⟨c, tail, hbegin, hlead, hc⟩ := hv.exists_lead
  have hne := hlead.ne_bracket
  cases first with
  | true =>
    obtain rfl : s = begin := h
    simp [atItem, hbegin.skip hc]
  | false =>
    have hcomma : AfterBlanks s (',' :: begin) := h
    rw [atItem_comma hcomma, hbegin.skip hc]
    split
    · cases ‹c :: tail = []›
    · exact absurd (List.cons.inj ‹c :: tail = ']' :: _›).1 hne
    · rfl

theorem atMember_close (h : AfterBlanks s ('\x7d' :: rest)) :
    atMember first s = .ok (false, rest) := by
  simp only [atMember, h.skip rfl]

theorem atMember_stands (h : Separated first s begin) (hkey : AfterBlanks begin ('"' :: after)) :
    atMember first s = .ok (true, after) := by
  cases first with
  | true =>
    obtain rfl : s = begin := h
    simp [atMember, hkey.skip rfl]
  | false =>
    have hcomma : AfterBlanks s (',' :: begin) := h
    simp [atMember, hcomma.skip rfl, hkey.skip rfl]

theorem enter_of_lt {height : Nat} (h : height + 1 < depth) :
    ∃ depth', enter depth = .ok depth' ∧ height < depth' := by
  refine ⟨depth - 1, ?_, by omega⟩
  rw [enter, if_neg (by omega)]

/-! ## Trees -/

mutual

/-- The tree with other leaves. -/
def Value.relabel (text : String → String) (number : Number → Number) : Value → Value
  | .null => .null
  | .bool b => .bool b
  | .number x => .number (number x)
  | .text t => .text (text t)
  | .list items => .list (relabelItems text number items)
  | .object members => .object (relabelMembers text number members)

def relabelItems (text : String → String) (number : Number → Number) : List Value → List Value
  | [] => []
  | v :: items => v.relabel text number :: relabelItems text number items

def relabelMembers (text : String → String) (number : Number → Number) :
    List (String × Value) → List (String × Value)
  | [] => []
  | (key, v) :: members =>
    (text key, v.relabel text number) :: relabelMembers text number members

end

mutual

theorem Value.relabel_id (v : Value) : v.relabel id id = v := by
  cases v with
  | null | bool b | number x | text t => rfl
  | list items => rw [Value.relabel, relabelItems_id items]
  | object members => rw [Value.relabel, relabelMembers_id members]

theorem relabelItems_id (items : List Value) : relabelItems id id items = items := by
  cases items with
  | nil => rfl
  | cons v items => rw [relabelItems, v.relabel_id, relabelItems_id items]

theorem relabelMembers_id (members : List (String × Value)) :
    relabelMembers id id members = members := by
  cases members with
  | nil => rfl
  | cons m members =>
    obtain ⟨key, v⟩ := m
    rw [relabelMembers, v.relabel_id, relabelMembers_id members]
    rfl

end

/-- What a lexis makes of the leaves that are spelled in a text. -/
structure Lexis.Makes (lexis : Lexis) (text : String → String) (number : Number → Number) :
    Prop where
  text : ∀ {t : String} {w : List Char}, TextSpelled t w →
    ∀ rest, lexis.text (w ++ '"' :: rest) = .ok (text t, rest)
  number : ∀ {x : Number} {w rest : List Char}, NumberSpelled x w → Breaks rest →
    lexis.number (w ++ rest) = .ok (number x, rest)

theorem Lexis.makes_strict : strict.Makes id id where
  text hw rest := readText_spelled hw rest
  number hw hrest := readNumber_spelled hw hrest

theorem Lexis.makes_lenient : lenient.Makes (fun _ => "") (fun _ => .natural 0) where
  text hw rest := by
    simp only [lenient, skipChars_spelled hw, ok_bind]
    rfl
  number hw hrest := by
    simp only [lenient, skipNumber_append hw.1 hrest, ok_bind]
    rfl

section Trees

variable {lexis : Lexis} {text : String → String} {number : Number → Number}

/-- What begins like a number is read as one. -/
theorem Lexis.readValue_numeral (hs : skipBlanks s = c :: after) (hc : startsNumber c = true) :
    lexis.readValue (fuel + 1) depth s = (do
      let (n, rest) ← lexis.number (c :: after)
      return (.number n, rest)) := by
  have hne : c ≠ 'n' ∧ c ≠ 't' ∧ c ≠ 'f' ∧ c ≠ '"' ∧ c ≠ '[' ∧ c ≠ '\x7b' := by
    refine ⟨?_, ?_, ?_, ?_, ?_, ?_⟩ <;> rintro rfl <;> cases hc
  obtain ⟨hn, ht, hf, hquote, hlist, hobject⟩ := hne
  rw [Lexis.readValue, hs]
  simp [hc]

mutual

theorem Lexis.readValue_stands (hlexis : lexis.Makes text number) (v : Value)
    {s rest : List Char} {depth fuel : Nat} (h : Stands v s rest) (hdepth : v.height < depth)
    (hfuel : 2 * s.length + 1 ≤ fuel) :
    lexis.readValue fuel depth s = .ok (v.relabel text number, rest) := by
  obtain ⟨fuel, rfl⟩ : ∃ n, fuel = n + 1 := ⟨fuel - 1, by omega⟩
  cases h with
  | null h | yes h | no h =>
    rw [Lexis.readValue, h.skip rfl]
    rfl
  | number h hw hrest =>
    obtain ⟨c, w', rfl, hc⟩ := hw.1.exists_cons
    rw [Lexis.readValue_numeral (h.skip (not_isBlank_of_startsNumber hc)) hc]
    exact congrArg (· >>= _) (hlexis.number hw hrest)
  | text h hw =>
    rw [Lexis.readValue, h.skip rfl]
    simp only [hlexis.text hw, ok_bind]
    rfl
  | @list items _ inside _ h hitems =>
    have hlength := h.length_le
    rw [List.length_cons] at hlength
    obtain ⟨depth', henter, hdepth'⟩ := enter_of_lt hdepth
    rw [Lexis.readValue, h.skip rfl]
    simp only [henter, ok_bind]
    rw [Lexis.readItems_stands hlexis items hitems hdepth' (by omega)]
    rfl
  | @object members _ inside _ h hmembers hkeys =>
    have hlength := h.length_le
    rw [List.length_cons] at hlength
    obtain ⟨depth', henter, hdepth'⟩ := enter_of_lt hdepth
    rw [Lexis.readValue, h.skip rfl]
    simp only [henter, ok_bind]
    rw [Lexis.readMembers_stands hlexis members hmembers hdepth' (by omega)]
    rfl

theorem Lexis.readItems_stands (hlexis : lexis.Makes text number) (items : List Value)
    {first : Bool} {s rest : List Char} {depth fuel : Nat} (h : ItemsStand first items s rest)
    (hdepth : itemsHeight items < depth) (hfuel : 2 * s.length + 2 ≤ fuel) :
    lexis.readItems fuel depth first s = .ok (relabelItems text number items, rest) := by
  obtain ⟨fuel, rfl⟩ : ∃ n, fuel = n + 1 := ⟨fuel - 1, by omega⟩
  rw [Lexis.readItems]
  cases h with
  | close h =>
    rw [atItem_close h, ok_bind]
    simp only [Bool.false_eq_true, if_false, closeList_of_afterBlanks (afterBlanks_refl _), ok_bind]
    rfl
  | @item _ v items _ begin after _ h hv hitems =>
    have hlength := h.length_le
    have hshorter := hv.height_lt
    have hskip : (skipBlanks begin).length ≤ begin.length := List.length_dropWhile_le _ _
    rw [itemsHeight] at hdepth
    rw [atItem_stands h hv, ok_bind]
    simp only [if_true]
    rw [Lexis.readValue_stands hlexis v hv.skipped (by omega) (by omega), ok_bind]
    simp only
    rw [Lexis.readItems_stands hlexis items hitems (by omega) (by omega)]
    rfl

theorem Lexis.readMembers_stands (hlexis : lexis.Makes text number)
    (members : List (String × Value)) {first : Bool} {s rest : List Char} {depth fuel : Nat}
    (h : MembersStand first members s rest) (hdepth : membersHeight members < depth)
    (hfuel : 2 * s.length + 2 ≤ fuel) :
    lexis.readMembers fuel depth first s = .ok (relabelMembers text number members, rest) := by
  obtain ⟨fuel, rfl⟩ : ∃ n, fuel = n + 1 := ⟨fuel - 1, by omega⟩
  rw [Lexis.readMembers]
  cases h with
  | close h =>
    rw [atMember_close h, ok_bind]
    rfl
  | @member _ key v members _ begin w colon value after _ h hkey hw hcolon hv hmembers =>
    have hlength := h.length_le
    have hbegin := hkey.length_le
    have hvalue := hcolon.length_le
    have hshorter := hv.height_lt
    simp only [List.length_cons, List.length_append] at hbegin hvalue
    rw [membersHeight] at hdepth
    rw [atMember_stands h hkey, ok_bind]
    simp only [if_true]
    rw [hlexis.text hw, ok_bind]
    simp only [readColon_of_afterBlanks hcolon, ok_bind]
    rw [Lexis.readValue_stands hlexis v hv (by omega) (by omega), ok_bind]
    simp only
    rw [Lexis.readMembers_stands hlexis members hmembers (by omega) (by omega)]
    rfl

end

end Trees

theorem readValue_stands (h : Stands v s rest) (hdepth : v.height < depth) :
    readValue depth s = .ok (v, rest) := by
  rw [readValue, Lexis.readValue_stands Lexis.makes_strict v h hdepth (by omega), v.relabel_id]

theorem skipValue_stands (h : Stands v s rest) : skipValue s = .ok ((), rest) := by
  have hheight := h.height_lt
  rw [skipValue, Lexis.readValue_stands Lexis.makes_lenient v h (by omega) (by omega), ok_bind]
  rfl

/-- A whole text that stands for a value is read as that value. -/
theorem parse_of_stands {text : String} (h : Stands v text.toList rest)
    (hrest : ∀ c ∈ rest, isBlank c = true) (hdepth : v.height < depthLimit) :
    parse text = .ok v := by
  rw [parse, readValue_stands h hdepth, ok_bind]
  simp only [closeText_of_blanks hrest, ok_bind]
  rfl

end RoutePlan.Json
