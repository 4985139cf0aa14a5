import RoutePlan.Json.Schema
import RoutePlan.Proofs.Json.Reading

/-! # Reading along a schema

A schema reads a value from its tree or from its text. Here the two ways are shown to accept the
same values and to give the same for them: whatever is wrong with a value, reading its text comes
upon a fault as well, though perhaps another one and at another place.
-/

namespace RoutePlan.Json

variable {α β ε : Type} {v : Value} {items : List Value} {members : List (String × Value)}
  {c : Char} {s after rest : List Char} {first : Bool} {depth fuel : Nat}

/-! ## Outcomes -/

theorem toOption_eq_some {step : Except ε α} {a : α} : step.toOption = some a ↔ step = .ok a := by
  cases step <;> simp [Except.toOption]

theorem toOption_bind (step : Except ε α) (next : α → Except ε β) :
    (step >>= next).toOption = step.toOption.bind fun a => (next a).toOption := by
  cases step <;> rfl

theorem toOption_mapError {ε' : Type} (f : ε → ε') (step : Except ε α) :
    (step.mapError f).toOption = step.toOption := by
  cases step <;> rfl

theorem toOption_liftMismatch (step : Except Mismatch α) :
    (liftMismatch step).toOption = step.toOption := by
  cases step <;> rfl

theorem rel_bind {α' β' : Type} {r : α → β → Prop} {r' : α' → β' → Prop} {a : Option α}
    {b : Option β} {f : α → Option α'} {g : β → Option β'} (h : Option.Rel r a b)
    (hnext : ∀ x y, r x y → Option.Rel r' (f x) (g y)) :
    Option.Rel r' (a.bind f) (b.bind g) := by
  cases h with
  | none => exact .none
  | some h => exact hnext _ _ h

/-! ## The first character of a text -/

theorem Stands.exists_first (h : Stands v s rest) :
    ∃ c after, skipBlanks s = c :: after ∧ v.Leads c := by
  obtain ⟨c, after, hs, hlead, hc⟩ := h.exists_lead
  exact ⟨c, after, hs.skip hc, hlead⟩

/-- The mark that a text begins with tells which kind of value it stands for. -/
theorem Value.Leads.eq_text (h : v.Leads '"') : ∃ t, v = .text t := by
  cases v with
  | text t => exact ⟨t, rfl⟩
  | bool b => cases b <;> cases h
  | _ => cases h

theorem Value.Leads.eq_list (h : v.Leads '[') : ∃ items, v = .list items := by
  cases v with
  | list items => exact ⟨items, rfl⟩
  | bool b => cases b <;> cases h
  | _ => cases h

theorem Value.Leads.eq_object (h : v.Leads '\x7b') : ∃ members, v = .object members := by
  cases v with
  | object members => exact ⟨members, rfl⟩
  | bool b => cases b <;> cases h
  | _ => cases h

theorem Value.Leads.eq_null (h : v.Leads 'n') : v = .null := by
  cases v with
  | null => rfl
  | bool b => cases b <;> cases h
  | _ => cases h

/-! ## Faithful schemas -/

/-- On every text that stands for a value, and for every depth that the value fits into, reading
the text accepts what reading the tree accepts, gives the same, and stops behind the value. -/
def Schema.IsFaithful (a : Schema α) : Prop :=
  ∀ ⦃v : Value⦄ ⦃s rest : List Char⦄ ⦃depth : Nat⦄, Stands v s rest → v.height < depth →
    (a.read depth s).toOption = (a.ofValue v).toOption.map (·, rest)

namespace Schema

theorem isFaithful_never : (never : Schema α).IsFaithful := fun _ _ _ _ _ _ => rfl

theorem isFaithful_text : text.IsFaithful := by
  intro v s rest depth h hdepth
  obtain ⟨c, after, hs, hlead⟩ := h.exists_first
  by_cases hc : c = '"'
  · subst hc
    obtain ⟨t, rfl⟩ := hlead.eq_text
    cases h with
    | text h hw =>
      simp only [text, h.skip rfl, readText_spelled hw]
      rfl
  · have hread : text.read depth s = .error (readUnexpected "a string" (c :: after)) := by
      simp [text, hs, hc]
    rw [hread]
    cases v with
    | text t => exact absurd hlead hc
    | _ => rfl

theorem IsFaithful.refine {a : Schema α} (h : a.IsFaithful) (f : α → Except String β) :
    (a.refine f).IsFaithful := by
  intro v s rest depth hv hdepth
  have ha := h hv hdepth
  simp only [Schema.refine, toOption_bind, toOption_mapError, ha]
  cases (a.ofValue v).toOption with
  | none => rfl
  | some x =>
    simp only [Option.map_some, Option.bind_some]
    cases f x <;> rfl

theorem IsFaithful.map {a : Schema α} (h : a.IsFaithful) (f : α → β) : (a.map f).IsFaithful := by
  intro v s rest depth hv hdepth
  have ha := h hv hdepth
  simp only [Schema.map, toOption_bind, ha]
  cases (a.ofValue v).toOption <;> rfl

theorem IsFaithful.optional {a : Schema α} (h : a.IsFaithful) : a.optional.IsFaithful := by
  intro v s rest depth hv hdepth
  obtain ⟨c, after, hs, hlead⟩ := hv.exists_first
  by_cases hc : c = 'n'
  · subst hc
    obtain rfl := hlead.eq_null
    cases hv with
    | null hv =>
      simp only [Schema.optional, hv.skip rfl]
      rfl
  · have ha := h hv.skipped hdepth
    have hread : a.optional.read depth s
        = (fun p => (some p.1, p.2)) <$> a.read depth (skipBlanks s) := by
      simp [Schema.optional, hs, hc]
    have htree : a.optional.ofValue v = (do return some (← a.ofValue v)) := by
      cases v with
      | null => exact absurd hlead hc
      | _ => rfl
    rw [hread, htree, map_eq_pure_bind, toOption_bind, toOption_bind, ha]
    cases (a.ofValue v).toOption <;> rfl

/-- Both readings are of the whole value, so only the tree decides. -/
theorem isFaithful_either (name : String) (a b : Schema α) : (either name a b).IsFaithful := by
  intro v s rest depth hv hdepth
  simp only [either, readValue_stands hv hdepth, ok_bind, toOption_bind, toOption_liftMismatch]
  split
  · rfl
  · split <;> rfl

/-! ## Lists -/

theorem readItems_toOption {a : Schema α} (ha : a.IsFaithful) (items : List Value) {first : Bool}
    {s rest : List Char} {depth fuel : Nat} (h : ItemsStand first items s rest)
    (hdepth : itemsHeight items < depth) (hfuel : s.length < fuel) :
    (a.readItems depth fuel first s).toOption = (a.ofItems items).toOption.map (·, rest) := by
  induction items generalizing first s fuel with
  | nil =>
    obtain ⟨fuel, rfl⟩ : ∃ n, fuel = n + 1 := ⟨fuel - 1, by omega⟩
    cases h with
    | close h =>
      rw [readItems, atItem_close h, ok_bind]
      simp only [Bool.false_eq_true, if_false, closeList_of_afterBlanks (afterBlanks_refl _),
        ok_bind]
      rfl
  | cons v items ih =>
    obtain ⟨fuel, rfl⟩ : ∃ n, fuel = n + 1 := ⟨fuel - 1, by omega⟩
    cases h with
    | @item _ _ _ _ begin after _ h hv hitems =>
      have hlength := h.length_le
      have hshorter := hv.height_lt
      rw [itemsHeight] at hdepth
      have hitem := ha hv.skipped (show v.height < depth by omega)
      have hrest := ih hitems (by omega) (show after.length < fuel by omega)
      rw [readItems, ofItems, atItem_stands h hv, ok_bind]
      simp only [if_true, toOption_bind, hitem]
      cases (a.ofValue v).toOption with
      | none => rfl
      | some x =>
        simp only [Option.map_some, Option.bind_some, hrest]
        cases (a.ofItems items).toOption <;> rfl

theorem IsFaithful.list {a : Schema α} (ha : a.IsFaithful) : (Schema.list a).IsFaithful := by
  intro v s rest depth hv hdepth
  obtain ⟨c, after, hs, hlead⟩ := hv.exists_first
  by_cases hc : c = '['
  · subst hc
    obtain ⟨items, rfl⟩ := hlead.eq_list
    cases hv with
    | list hv hitems =>
      obtain ⟨depth', henter, hdepth'⟩ := enter_of_lt hdepth
      simp only [Schema.list, hv.skip rfl, henter, ok_bind]
      have hlength := hitems.height_lt
      exact readItems_toOption ha items hitems hdepth' (by omega)
  · have hread : (Schema.list a).read depth s
        = .error (readUnexpected "a sequence" (c :: after)) := by
      simp [Schema.list, hs, hc]
    rw [hread]
    cases v with
    | list items => exact absurd hlead hc
    | _ => rfl

end Schema

/-! ## Records -/

/-- The schemas of all fields are faithful. -/
def Fields.IsFaithful : {α : Type} → Fields α → Prop
  | _, .done => True
  | _, .field _ schema _ rest => schema.IsFaithful ∧ rest.IsFaithful

namespace Fields

theorem put_toOption {fs : Fields α} (hfs : fs.IsFaithful) (hv : Stands v s rest)
    (hdepth : v.height < depth) (key : String) (slots : fs.Slots) :
    (fs.put (fun schema => schema.read depth s) (fun name => .mismatch (.duplicate name))
        key slots).map Except.toOption
      = (fs.put (fun schema => do return (← schema.ofValue v, ())) .duplicate key slots).map
        fun filled => filled.toOption.map fun p => (p.1, rest) := by
  induction fs with
  | done => rfl
  | field name schema fallback fields ih =>
    obtain ⟨hschema, hfields⟩ := hfs
    obtain ⟨slot, slots⟩ := slots
    simp only [put]
    split
    · cases slot with
      | some x => rfl
      | none =>
        simp only [toOption_bind, Option.map_some, hschema hv hdepth]
        cases (schema.ofValue v).toOption <;> rfl
    · have hput := ih hfields slots
      simp only [Option.map_map]
      cases htext : fields.put (fun schema => schema.read depth s)
          (fun name => .mismatch (.duplicate name)) key slots with
      | none =>
        simp only [htext, Option.map_none] at hput
        rw [eq_comm, Option.map_eq_none_iff] at hput
        simp only [hput, Option.map_none]
      | some filled =>
        simp only [htext, Option.map_some] at hput
        rw [eq_comm, Option.map_eq_some_iff] at hput
        obtain ⟨tree, htree, hfilled⟩ := hput
        simp only [htree, Option.map_some, Function.comp_apply, toOption_bind, ← hfilled]
        cases tree.toOption <;> rfl

/-- Members that no field has the key of are skipped, in both readings. -/
theorem readMembers_toOption {fs : Fields α} (hfs : fs.IsFaithful)
    (members : List (String × Value)) {first : Bool} {s rest : List Char} {depth fuel : Nat}
    (slots : fs.Slots) (h : MembersStand first members s rest)
    (hdepth : membersHeight members < depth) (hfuel : s.length < fuel) :
    (fs.readMembers depth fuel first slots s).toOption
      = (fs.ofMembers members slots).toOption.map (·, rest) := by
  induction members generalizing first s fuel slots with
  | nil =>
    obtain ⟨fuel, rfl⟩ : ∃ n, fuel = n + 1 := ⟨fuel - 1, by omega⟩
    cases h with
    | close h =>
      rw [readMembers, atMember_close h, ok_bind]
      rfl
  | cons m members ih =>
    obtain ⟨fuel, rfl⟩ : ∃ n, fuel = n + 1 := ⟨fuel - 1, by omega⟩
    cases h with
    | @member _ key v members _ begin w colon value after _ h hkey hw hcolon hv hmembers =>
      have hlength := h.length_le
      have hbegin := hkey.length_le
      have hvalue := hcolon.length_le
      have hshorter := hv.height_lt
      simp only [List.length_cons, List.length_append] at hbegin hvalue
      rw [membersHeight] at hdepth
      have hput := put_toOption hfs hv (show v.height < depth by omega) key slots
      have hrest := fun slots =>
        ih slots hmembers (by omega) (show after.length < fuel by omega)
      rw [readMembers, ofMembers, atMember_stands h hkey, ok_bind]
      simp only [if_true, readText_spelled hw, readColon_of_afterBlanks hcolon, ok_bind]
      cases htree : fs.put (fun schema => do return (← schema.ofValue v, ())) .duplicate key
          slots with
      | none =>
        rw [htree, Option.map_none, Option.map_eq_none_iff] at hput
        simp only [hput, skipValue_stands hv, ok_bind, hrest]
      | some tree =>
        rw [htree, Option.map_some, Option.map_eq_some_iff] at hput
        obtain ⟨filled, htext, hfilled⟩ := hput
        simp only [htext, toOption_bind, hfilled]
        cases tree.toOption with
        | none => rfl
        | some p => simp only [Option.map_some, Option.bind_some, hrest]

/-- The reading of a text stops where the reading of the tree has items left. -/
theorem readItems_toOption {fs : Fields α} (hfs : fs.IsFaithful) (record : String) (total : Nat)
    (index : Nat) {items : List Value} (h : ItemsStand (index == 0) items s rest)
    (hdepth : itemsHeight items < depth) :
    Option.Rel (fun tree text => tree.1 = text.1 ∧ ∃ first, ItemsStand first tree.2 text.2 rest)
      (fs.ofItems record total index items).toOption
      (fs.readItems record total depth index s).toOption := by
  induction fs generalizing index items s with
  | done => exact .some ⟨rfl, _, h⟩
  | field name schema fallback fields ih =>
    obtain ⟨hschema, hfields⟩ := hfs
    cases h with
    | close h =>
      rw [ofItems.eq_def, readItems, atItem_close h, ok_bind]
      cases fallback with
      | none => exact .none
      | some x =>
        have hrest := ih hfields (index + 1) (.close (afterBlanks_refl (']' :: rest))) hdepth
        simp only [Bool.false_eq_true, if_false, toOption_bind]
        exact rel_bind hrest fun tree text h => .some ⟨congrArg (x, ·) h.1, h.2⟩
    | @item _ v items _ begin after _ h hv hitems =>
      rw [itemsHeight] at hdepth
      have hitem := hschema hv.skipped (show v.height < depth by omega)
      have hrest := ih hfields (index + 1) hitems (by omega)
      rw [ofItems, readItems, atItem_stands h hv, ok_bind]
      simp only [if_true, toOption_bind, hitem]
      cases (schema.ofValue v).toOption with
      | none => exact .none
      | some x =>
        simp only [Option.map_some, Option.bind_some]
        exact rel_bind hrest fun tree text h => .some ⟨congrArg (x, ·) h.1, h.2⟩

theorem closeList_toOption {items : List Value} (h : ItemsStand first items s rest) :
    (closeList s).toOption = if items.isEmpty then some ((), rest) else none := by
  cases h with
  | close h => rw [closeList_of_afterBlanks h]; rfl
  | @item _ v items _ begin after _ h hv hitems =>
    cases first with
    | true =>
      obtain rfl : s = begin := h
      obtain ⟨c, tail, hs, hlead⟩ := hv.exists_first
      have hne := hlead.ne_bracket
      simp [closeList, hs, hne, Except.toOption]
    | false =>
      have hcomma : AfterBlanks s (',' :: begin) := h
      rw [closeList, hcomma.skip rfl]
      rfl

end Fields

namespace Schema

theorem IsFaithful.record {fields : Fields α} (hfields : fields.IsFaithful) (name : String) :
    (Schema.record name fields).IsFaithful := by
  intro v s rest depth hv hdepth
  obtain ⟨c, after, hs, hlead⟩ := hv.exists_first
  by_cases hlist : c = '['
  · subst hlist
    obtain ⟨items, rfl⟩ := hlead.eq_list
    cases hv with
    | list hv hitems =>
      obtain ⟨depth', henter, hdepth'⟩ := enter_of_lt hdepth
      have hread := Fields.readItems_toOption hfields name fields.count 0 hitems hdepth'
      simp only [Schema.record, hv.skip rfl, henter, ok_bind, toOption_bind]
      revert hread
      generalize (fields.ofItems name fields.count 0 items).toOption = tree
      generalize (fields.readItems name fields.count depth' 0 _).toOption = text
      intro hread
      cases hread with
      | none => rfl
      | @some tree text h =>
        obtain ⟨x, left⟩ := tree
        obtain ⟨y, inside⟩ := text
        obtain ⟨rfl, first, hleft⟩ := h
        simp only [Option.bind_some, Fields.closeList_toOption hleft]
        cases left <;> rfl
  by_cases hobject : c = '\x7b'
  · subst hobject
    obtain ⟨members, rfl⟩ := hlead.eq_object
    cases hv with
    | @object _ _ inside _ hv hmembers hkeys =>
      obtain ⟨depth', henter, hdepth'⟩ := enter_of_lt hdepth
      have hread := Fields.readMembers_toOption hfields members fields.vacant hmembers hdepth'
        (Nat.lt_succ_self inside.length)
      simp only [Schema.record, hv.skip rfl, henter, ok_bind, toOption_bind, toOption_liftMismatch,
        hread]
      cases (fields.ofMembers members fields.vacant).toOption with
      | none => rfl
      | some slots =>
        simp only [Option.map_some, Option.bind_some]
        cases (fields.finish slots).toOption <;> rfl
  · have hread : (Schema.record name fields).read depth s
        = .error (readUnexpected ("struct " ++ name) (c :: after)) := by
      simp [Schema.record, hs, hlist, hobject]
    rw [hread]
    cases v with
    | list items => exact absurd hlead hlist
    | object members => exact absurd hlead hobject
    | _ => rfl

theorem mem_of_variant {variants : List (String × Schema α)} {name : String} {schema : Schema α}
    (h : variant variants name = .ok schema) : (name, schema) ∈ variants := by
  rw [variant] at h
  split at h
  · rename_i found hlookup
    cases h
    obtain ⟨before, after, rfl, -⟩ := List.lookup_eq_some_iff.mp hlookup
    simp
  · cases h

/-- A list of named variants of which every schema is faithful. -/
theorem IsFaithful.choice {variants : List (String × Schema α)}
    (h : ∀ p ∈ variants, p.2.IsFaithful) : (Schema.choice variants).IsFaithful := by
  intro v s rest depth hv hdepth
  obtain ⟨c, after, hs, hlead⟩ := hv.exists_first
  by_cases hobject : c = '\x7b'
  · subst hobject
    obtain ⟨members, rfl⟩ := hlead.eq_object
    cases hv with
    | @object _ _ inside _ hv hmembers hkeys =>
      obtain ⟨depth', henter, hdepth'⟩ := enter_of_lt hdepth
      simp only [Schema.choice, hv.skip rfl, henter, ok_bind]
      cases hmembers with
      | close h =>
        simp only [h.skip rfl]
        rfl
      | @member _ key v members _ begin w colon value after _ hbegin hkey hw hcolon hv hmembers =>
        obtain rfl : inside = begin := hbegin
        simp only [hkey.skip rfl, readText_spelled hw, readColon_of_afterBlanks hcolon, ok_bind,
          toOption_bind, toOption_liftMismatch]
        have hread {schema : Schema α} (hvariant : variant variants key = .ok schema) :
            (schema.read depth' value).toOption = (schema.ofValue v).toOption.map (·, after) := by
          rw [membersHeight] at hdepth'
          exact h (key, schema) (mem_of_variant hvariant) hv (by omega)
        cases hmembers with
        | close hclose =>
          simp only [toOption_bind]
          cases hvariant : variant variants key with
          | error e => rfl
          | ok schema =>
            change ((schema.read depth' value).toOption.bind fun a => _)
              = (schema.ofValue v).toOption.map (·, rest)
            rw [hread hvariant]
            cases (schema.ofValue v).toOption with
            | none => rfl
            | some x => simp only [Option.map_some, Option.bind_some, hclose.skip rfl]; rfl
        | member hcomma =>
          have hafter : AfterBlanks after (',' :: _) := hcomma
          change _ = none
          cases hvariant : variant variants key with
          | error e => rfl
          | ok schema =>
            change ((schema.read depth' value).toOption.bind fun a => _) = none
            rw [hread hvariant]
            cases (schema.ofValue v).toOption with
            | none => rfl
            | some x => simp only [Option.map_some, Option.bind_some, hafter.skip rfl]; rfl
  by_cases hquote : c = '"'
  · subst hquote
    obtain ⟨t, rfl⟩ := hlead.eq_text
    cases hv with
    | text hv hw =>
      simp only [Schema.choice, hv.skip rfl, readText_spelled hw, ok_bind, toOption_bind,
        toOption_liftMismatch]
      cases (variant variants t).toOption <;> rfl
  · have hread : (Schema.choice variants).read depth s = .error .malformed := by
      simp [Schema.choice, hs, hobject, hquote]
    rw [hread]
    cases v with
    | text t => exact absurd hlead hquote
    | object members => exact absurd hlead hobject
    | _ => rfl

end Schema

end RoutePlan.Json
