import RoutePlan.Json.Printer
import RoutePlan.Proofs.Json.Order

/-! # Reading what is printed

Every character is printed as one of its spellings, and the line breaks of a printed value are
blanks between its parts, so that a printed value stands for itself. Numbers are left out: a
double is printed by digits that need not be read as the same double.
-/

namespace RoutePlan.Json

variable {v : Value} {s after rest : List Char} {level : Nat}

/-! ## Strings -/

theorem hexDigit?_digitChar {n : Nat} (h : n < 16) : hexDigit? (Nat.digitChar n) = some n := by
  have hall : ∀ n : Fin 16, hexDigit? (Nat.digitChar n) = some n.val := by decide
  exact hall ⟨n, h⟩

theorem unitSpelled_of_lt {n : Nat} (h : n < 256) :
    UnitSpelled n ['0', '0', Nat.digitChar (n / 16), Nat.digitChar (n % 16)] := by
  have hn : n = ((0 * 16 + 0) * 16 + n / 16) * 16 + n % 16 := by omega
  have hzero : hexDigit? '0' = some 0 := rfl
  have hdigits := UnitSpelled.digits hzero hzero (hexDigit?_digitChar (show n / 16 < 16 by omega))
    (hexDigit?_digitChar (show n % 16 < 16 by omega))
  rwa [← hn] at hdigits

theorem charSpelled_escapeChar (c : Char) : CharSpelled c (escapeChar c) := by
  unfold escapeChar
  split
  · exact .letter rfl
  · exact .letter rfl
  · exact .letter rfl
  · exact .letter rfl
  · exact .letter rfl
  · exact .letter rfl
  · exact .letter rfl
  · rename_i hquote hescape _ _ _ _ _
    split
    · exact .unit (unitSpelled_of_lt (by omega))
    · exact .plain hquote hescape (decide_eq_false ‹_›)

theorem textSpelled_escaped (t : String) : TextSpelled t (t.toList.flatMap escapeChar) := by
  refine ⟨t.toList.map escapeChar, ?_, rfl⟩
  rw [List.forall₂_map_right_iff, List.forall₂_same]
  exact fun c _ => charSpelled_escapeChar c

theorem printText_append (s rest : List Char) :
    printText s ++ rest = '"' :: (s.flatMap escapeChar ++ '"' :: rest) := by
  simp [printText]

/-! ## Line breaks -/

theorem AfterBlanks.trans {between : List Char} (h : AfterBlanks s between)
    (h' : AfterBlanks between after) : AfterBlanks s after := by
  obtain ⟨blanks, hblanks, rfl⟩ := h
  obtain ⟨blanks', hblanks', rfl⟩ := h'
  refine ⟨blanks ++ blanks', fun c hc => ?_, (List.append_assoc _ _ _).symm⟩
  exact (List.mem_append.mp hc).elim (hblanks c) (hblanks' c)

theorem Stands.behind (h : Stands v after rest) (hs : AfterBlanks s after) : Stands v s rest := by
  cases h with
  | null h => exact .null (hs.trans h)
  | yes h => exact .yes (hs.trans h)
  | no h => exact .no (hs.trans h)
  | number h hw hrest => exact .number (hs.trans h) hw hrest
  | text h hw => exact .text (hs.trans h) hw
  | list h hitems => exact .list (hs.trans h) hitems
  | object h hmembers hkeys => exact .object (hs.trans h) hmembers hkeys

theorem afterBlanks_lineBreak (level : Nat) (rest : List Char) :
    AfterBlanks (lineBreak level ++ rest) rest := by
  refine ⟨lineBreak level, fun c hc => ?_, rfl⟩
  rcases List.mem_cons.mp hc with rfl | hc
  · rfl
  · rw [List.eq_of_mem_replicate hc]
    rfl

theorem MembersStand.printed {key : String} {value : List Char} {members : List (String × Value)}
    {first : Bool}
    (h : Separated first s
      (lineBreak level ++ '"' :: (key.toList.flatMap escapeChar ++ '"' :: ':' :: ' ' :: value)))
    (hv : Stands v value after) (hmembers : MembersStand false members after rest) :
    MembersStand first ((key, v) :: members) s rest :=
  have hblank : AfterBlanks (' ' :: value) value := ⟨[' '], List.forall_mem_singleton.mpr rfl, rfl⟩
  .member h (afterBlanks_lineBreak _ _) (textSpelled_escaped key) (afterBlanks_refl _)
    (hv.behind hblank) hmembers

/-! ## Values -/

mutual

/-- No number is in the value, and no object in it has a key twice. -/
def Value.IsVerbal : Value → Prop
  | .number _ => False
  | .null | .bool _ | .text _ => True
  | .list items => ItemsVerbal items
  | .object members => MembersVerbal members ∧ (members.map (·.1)).Nodup

def ItemsVerbal : List Value → Prop
  | [] => True
  | v :: items => v.IsVerbal ∧ ItemsVerbal items

def MembersVerbal : List (String × Value) → Prop
  | [] => True
  | (_, v) :: members => v.IsVerbal ∧ MembersVerbal members

end

mutual

theorem Value.IsVerbal.stands_print (v : Value) (h : v.IsVerbal) (level : Nat) (rest : List Char) :
    Stands v (v.print level ++ rest) rest := by
  cases v with
  | null => exact .null (afterBlanks_refl _)
  | bool b =>
    cases b with
    | true => exact .yes (afterBlanks_refl _)
    | false => exact .no (afterBlanks_refl _)
  | number x => cases h
  | text t =>
    rw [Value.print, printText_append]
    exact .text (afterBlanks_refl _) (textSpelled_escaped t)
  | list items =>
    cases items with
    | nil => exact .list (afterBlanks_refl _) (.close (afterBlanks_refl _))
    | cons v items =>
      have hv := h.1.stands_print v (level + 1)
      have hitems := ItemsVerbal.stand_print items h.2 (level + 1) level
      simp only [Value.print, List.cons_append, List.append_assoc]
      exact .list (afterBlanks_refl _)
        (.item rfl ((hv _).behind (afterBlanks_lineBreak _ _)) (hitems rest))
  | object members =>
    cases members with
    | nil => exact .object (afterBlanks_refl _) (.close (afterBlanks_refl _)) List.nodup_nil
    | cons m members =>
      obtain ⟨key, v⟩ := m
      have hv := h.1.1.stands_print v (level + 1)
      have hmembers := MembersVerbal.stand_print members h.1.2 (level + 1) level
      simp only [Value.print, List.cons_append, List.append_assoc, printText_append]
      exact .object (afterBlanks_refl _) (.printed rfl (hv _) (hmembers rest)) h.2

/-- The items behind the first, up to the bracket on a line of its own. -/
theorem ItemsVerbal.stand_print (items : List Value) (h : ItemsVerbal items) (level outer : Nat)
    (rest : List Char) :
    ItemsStand false items (printItems level items ++ (lineBreak outer ++ ']' :: rest)) rest := by
  cases items with
  | nil => exact .close (afterBlanks_lineBreak _ _)
  | cons v items =>
    have hv := h.1.stands_print v level
    have hitems := ItemsVerbal.stand_print items h.2 level outer rest
    simp only [printItems, List.cons_append, List.append_assoc]
    exact .item (afterBlanks_refl _) ((hv _).behind (afterBlanks_lineBreak _ _)) hitems

theorem MembersVerbal.stand_print (members : List (String × Value)) (h : MembersVerbal members)
    (level outer : Nat) (rest : List Char) :
    MembersStand false members
      (printMembers level members ++ (lineBreak outer ++ '\x7d' :: rest)) rest := by
  cases members with
  | nil => exact .close (afterBlanks_lineBreak _ _)
  | cons m members =>
    obtain ⟨key, v⟩ := m
    have hv := h.1.stands_print v level
    have hmembers := MembersVerbal.stand_print members h.2 level outer rest
    simp only [printMembers, List.cons_append, List.append_assoc, printText_append]
    exact .printed (afterBlanks_refl _) (hv _) hmembers

end

theorem Value.IsVerbal.stands_toText {v : Value} (h : v.IsVerbal) (after : String) :
    Stands v (v.toText ++ after).toList after.toList := by
  rw [String.toList_append, toText, String.toList_ofList]
  exact h.stands_print v 0 _

/-- Reading gives back what was printed, also with blanks behind it. -/
theorem Value.IsVerbal.parse_toText {v : Value} (h : v.IsVerbal) (hdepth : v.height < depthLimit)
    {after : String} (hafter : ∀ c ∈ after.toList, isBlank c = true) :
    parse (v.toText ++ after) = .ok v :=
  parse_of_stands (h.stands_toText after) hafter hdepth

end RoutePlan.Json
