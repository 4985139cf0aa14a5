import RoutePlan.Proofs.Json.Numeral

/-! # The grammar of JSON texts

Which texts stand for a value: blanks may be put between any two of its parts, every string and
every number may be spelled in any way, and the members of an object have different keys. The
order of the items and members in a text is their order in the value.
-/

namespace RoutePlan.Json

variable {v : Value} {items : List Value} {members : List (String × Value)}
  {c : Char} {s after rest w : List Char} {first : Bool}

/-- The text `s` is blanks and then `after`. -/
def AfterBlanks (s after : List Char) : Prop :=
  ∃ blanks, (∀ c ∈ blanks, isBlank c = true) ∧ s = blanks ++ after

/-- Where an item or a member begins: behind a comma, unless it is the first. -/
def Separated : Bool → List Char → List Char → Prop
  | true, s, after => s = after
  | false, s, after => AfterBlanks s (',' :: after)

mutual

/-- The text `s` begins with a spelling of the value, behind blanks, and goes on with `rest`. -/
inductive Stands : Value → List Char → List Char → Prop
  | null {s rest : List Char} (h : AfterBlanks s ('n' :: 'u' :: 'l' :: 'l' :: rest)) :
    Stands .null s rest
  | yes {s rest : List Char} (h : AfterBlanks s ('t' :: 'r' :: 'u' :: 'e' :: rest)) :
    Stands (.bool true) s rest
  | no {s rest : List Char} (h : AfterBlanks s ('f' :: 'a' :: 'l' :: 's' :: 'e' :: rest)) :
    Stands (.bool false) s rest
  | number {x : Number} {s w rest : List Char} (h : AfterBlanks s (w ++ rest))
    (hw : NumberSpelled x w) (hrest : Breaks rest) : Stands (.number x) s rest
  | text {t : String} {s w rest : List Char} (h : AfterBlanks s ('"' :: (w ++ '"' :: rest)))
    (hw : TextSpelled t w) : Stands (.text t) s rest
  | list {items : List Value} {s inside rest : List Char} (h : AfterBlanks s ('[' :: inside))
    (hitems : ItemsStand true items inside rest) : Stands (.list items) s rest
  | object {members : List (String × Value)} {s inside rest : List Char}
    (h : AfterBlanks s ('\x7b' :: inside)) (hmembers : MembersStand true members inside rest)
    (hkeys : (members.map (·.1)).Nodup) : Stands (.object members) s rest

/-- The items that are left of a list, up to its closing bracket. -/
inductive ItemsStand : Bool → List Value → List Char → List Char → Prop
  | close {first : Bool} {s rest : List Char} (h : AfterBlanks s (']' :: rest)) :
    ItemsStand first [] s rest
  | item {first : Bool} {v : Value} {items : List Value} {s begin after rest : List Char}
    (h : Separated first s begin) (hv : Stands v begin after)
    (hitems : ItemsStand false items after rest) : ItemsStand first (v :: items) s rest

/-- The members that are left of an object, up to its closing brace. -/
inductive MembersStand : Bool → List (String × Value) → List Char → List Char → Prop
  | close {first : Bool} {s rest : List Char} (h : AfterBlanks s ('\x7d' :: rest)) :
    MembersStand first [] s rest
  | member {first : Bool} {key : String} {v : Value} {members : List (String × Value)}
    {s begin w colon value after rest : List Char} (h : Separated first s begin)
    (hkey : AfterBlanks begin ('"' :: (w ++ '"' :: colon))) (hw : TextSpelled key w)
    (hcolon : AfterBlanks colon (':' :: value)) (hv : Stands v value after)
    (hmembers : MembersStand false members after rest) :
    MembersStand first ((key, v) :: members) s rest

end

/-! ## Height -/

mutual

/-- How many containers of the value are open at once where it is deepest. -/
def Value.height : Value → Nat
  | .null | .bool _ | .number _ | .text _ => 0
  | .list items => itemsHeight items + 1
  | .object members => membersHeight members + 1

def itemsHeight : List Value → Nat
  | [] => 0
  | v :: items => max v.height (itemsHeight items)

def membersHeight : List (String × Value) → Nat
  | [] => 0
  | (_, v) :: members => max v.height (membersHeight members)

end

/-! ## Blanks -/

theorem afterBlanks_refl (s : List Char) : AfterBlanks s s :=
  ⟨[], fun _ h => absurd h List.not_mem_nil, rfl⟩

theorem AfterBlanks.length_le (h : AfterBlanks s after) : after.length ≤ s.length := by
  obtain ⟨blanks, -, rfl⟩ := h
  simp

theorem AfterBlanks.skip (h : AfterBlanks s (c :: after)) (hc : isBlank c = false) :
    skipBlanks s = c :: after := by
  obtain ⟨blanks, hblanks, rfl⟩ := h
  rw [skipBlanks, List.dropWhile_append_of_pos hblanks, List.dropWhile_cons_of_neg (by simp [hc])]

/-- What stands behind the blanks of a text stands behind no blanks once they are skipped. -/
theorem AfterBlanks.skipped (h : AfterBlanks s (c :: after)) (hc : isBlank c = false) :
    AfterBlanks (skipBlanks s) (c :: after) := by
  rw [h.skip hc]
  exact afterBlanks_refl _

theorem Separated.length_le (h : Separated first s after) : after.length ≤ s.length := by
  cases first with
  | true => exact Nat.le_of_eq (congrArg List.length (Eq.symm h))
  | false =>
    have := AfterBlanks.length_le h
    simp only [List.length_cons] at this
    omega

/-! ## The first character -/

/-- The characters that a spelling of the value may begin with. -/
def Value.Leads : Value → Char → Prop
  | .null, c => c = 'n'
  | .bool true, c => c = 't'
  | .bool false, c => c = 'f'
  | .number _, c => startsNumber c = true
  | .text _, c => c = '"'
  | .list _, c => c = '['
  | .object _, c => c = '\x7b'

theorem IsNumeral.exists_cons (h : IsNumeral w) : ∃ c w', w = c :: w' ∧ startsNumber c = true := by
  obtain ⟨hsign, hwhole, -, -⟩ := h
  obtain ⟨hne, hall⟩ := hwhole.isDigits
  rcases hsign with rfl | rfl
  · rename_i whole _ _
    cases whole with
    | nil => exact absurd rfl hne
    | cons c whole => exact ⟨c, _, rfl, by simp [startsNumber, hall c]⟩
  · exact ⟨'-', _, rfl, rfl⟩

theorem not_isBlank_of_startsNumber (h : startsNumber c = true) : isBlank c = false := by
  rw [Bool.eq_false_iff]
  intro hblank
  simp only [isBlank, Bool.or_eq_true, beq_iff_eq] at hblank
  rcases hblank with ((rfl | rfl) | rfl) | rfl <;> cases h

/-- Behind its blanks a value begins with a character that shows what it is. -/
theorem Stands.exists_lead (h : Stands v s rest) :
    ∃ c after, AfterBlanks s (c :: after) ∧ v.Leads c ∧ isBlank c = false := by
  cases h with
  | null h | yes h | no h | list h | object h => exact ⟨_, _, h, rfl, rfl⟩
  | text h => exact ⟨_, _, h, rfl, rfl⟩
  | number h hw hrest =>
    obtain ⟨c, w', rfl, hc⟩ := hw.1.exists_cons
    exact ⟨c, _, h, hc, not_isBlank_of_startsNumber hc⟩

/-- A value is found again where the blanks before it are skipped. -/
theorem Stands.skipped (h : Stands v s rest) : Stands v (skipBlanks s) rest := by
  cases h with
  | null h => exact .null (h.skipped rfl)
  | yes h => exact .yes (h.skipped rfl)
  | no h => exact .no (h.skipped rfl)
  | number h hw hrest =>
    obtain ⟨c, w', rfl, hc⟩ := hw.1.exists_cons
    exact .number (h.skipped (not_isBlank_of_startsNumber hc)) hw hrest
  | text h hw => exact .text (h.skipped rfl) hw
  | list h hitems => exact .list (h.skipped rfl) hitems
  | object h hmembers hkeys => exact .object (h.skipped rfl) hmembers hkeys

/-! ## Lengths -/

mutual

/-- Every container takes a character of its own. -/
theorem Stands.height_lt (v : Value) {s rest : List Char} (h : Stands v s rest) :
    v.height + rest.length < s.length := by
  cases h with
  | null h | yes h | no h =>
    have := h.length_le
    simp only [Value.height, List.length_cons] at *
    omega
  | number h hw hrest =>
    obtain ⟨c, w', rfl, -⟩ := hw.1.exists_cons
    have := h.length_le
    simp only [Value.height, List.length_cons, List.length_append] at *
    omega
  | text h hw =>
    have := h.length_le
    simp only [Value.height, List.length_cons, List.length_append] at *
    omega
  | @list items _ inside _ h hitems =>
    have := h.length_le
    have := ItemsStand.height_lt items hitems
    simp only [Value.height, List.length_cons] at *
    omega
  | @object members _ inside _ h hmembers hkeys =>
    have := h.length_le
    have := MembersStand.height_lt members hmembers
    simp only [Value.height, List.length_cons] at *
    omega

theorem ItemsStand.height_lt (items : List Value) {first : Bool} {s rest : List Char}
    (h : ItemsStand first items s rest) : itemsHeight items + rest.length < s.length := by
  cases h with
  | close h =>
    have := h.length_le
    simp only [itemsHeight, List.length_cons] at *
    omega
  | @item _ v items _ begin after _ h hv hitems =>
    have := h.length_le
    have := Stands.height_lt v hv
    have := ItemsStand.height_lt items hitems
    simp only [itemsHeight] at *
    omega

theorem MembersStand.height_lt (members : List (String × Value)) {first : Bool}
    {s rest : List Char} (h : MembersStand first members s rest) :
    membersHeight members + rest.length < s.length := by
  cases h with
  | close h =>
    have := h.length_le
    simp only [membersHeight, List.length_cons] at *
    omega
  | @member _ key v members _ begin w colon value after _ h hkey hw hcolon hv hmembers =>
    have := h.length_le
    have := hkey.length_le
    have := hcolon.length_le
    have := Stands.height_lt v hv
    have := MembersStand.height_lt members hmembers
    simp only [membersHeight, List.length_cons, List.length_append] at *
    omega

end

end RoutePlan.Json
