import Mathlib.Data.List.Perm.Basic
import RoutePlan.Proofs.Json.Schema

/-! # The order of members

The members of an object have no order: two trees that differ only in how their members are
ordered are alike, and a schema reads them alike. What a text denotes is a tree up to this order.
-/

namespace RoutePlan.Json

variable {α β : Type}

mutual

/-- The two values differ in nothing but the order of the members of their objects. -/
inductive Value.Alike : Value → Value → Prop
  | null : Value.Alike .null .null
  | bool (b : Bool) : Value.Alike (.bool b) (.bool b)
  | number (x : Number) : Value.Alike (.number x) (.number x)
  | text (t : String) : Value.Alike (.text t) (.text t)
  | list {items items' : List Value} (h : ItemsAlike items items') :
    Value.Alike (.list items) (.list items')
  | object {members between members' : List (String × Value)} (h : MembersAlike members between)
    (hperm : between.Perm members') : Value.Alike (.object members) (.object members')

inductive ItemsAlike : List Value → List Value → Prop
  | nil : ItemsAlike [] []
  | cons {v v' : Value} {items items' : List Value} (h : Value.Alike v v')
    (hitems : ItemsAlike items items') : ItemsAlike (v :: items) (v' :: items')

/-- Alike values under the same keys, one by one. -/
inductive MembersAlike : List (String × Value) → List (String × Value) → Prop
  | nil : MembersAlike [] []
  | cons {key : String} {v v' : Value} {members members' : List (String × Value)}
    (h : Value.Alike v v') (hmembers : MembersAlike members members') :
    MembersAlike ((key, v) :: members) ((key, v') :: members')

end

/-- The text denotes the value: it stands for a tree that is like it, and blanks follow. -/
def Denotes (text : String) (v : Value) : Prop :=
  ∃ w rest, Stands w text.toList rest ∧ (∀ c ∈ rest, isBlank c = true) ∧ w.Alike v

mutual

theorem Value.alike_refl (v : Value) : v.Alike v := by
  cases v with
  | null => exact .null
  | bool b => exact .bool b
  | number x => exact .number x
  | text t => exact .text t
  | list items => exact .list (itemsAlike_refl items)
  | object members => exact .object (membersAlike_refl members) (.refl members)

theorem itemsAlike_refl (items : List Value) : ItemsAlike items items := by
  cases items with
  | nil => exact .nil
  | cons v items => exact .cons v.alike_refl (itemsAlike_refl items)

theorem membersAlike_refl (members : List (String × Value)) : MembersAlike members members := by
  cases members with
  | nil => exact .nil
  | cons m members => exact .cons m.2.alike_refl (membersAlike_refl members)

end

/-! ## Height -/

theorem membersHeight_perm {members members' : List (String × Value)}
    (h : members.Perm members') : membersHeight members = membersHeight members' := by
  induction h with
  | nil => rfl
  | cons m _ ih => rw [membersHeight, membersHeight, ih]
  | swap m n members => rw [membersHeight, membersHeight, membersHeight, membersHeight]; omega
  | trans _ _ ih ih' => rw [ih, ih']

mutual

theorem Value.Alike.height_eq {v w : Value} (h : v.Alike w) : v.height = w.height := by
  cases h with
  | null | bool | number | text => rfl
  | list h => rw [Value.height, Value.height, h.height_eq]
  | object h hperm => rw [Value.height, Value.height, h.height_eq, membersHeight_perm hperm]

theorem ItemsAlike.height_eq {items items' : List Value} (h : ItemsAlike items items') :
    itemsHeight items = itemsHeight items' := by
  cases h with
  | nil => rfl
  | cons h hitems => rw [itemsHeight, itemsHeight, h.height_eq, hitems.height_eq]

theorem MembersAlike.height_eq {members members' : List (String × Value)}
    (h : MembersAlike members members') : membersHeight members = membersHeight members' := by
  cases h with
  | nil => rfl
  | cons h hmembers => rw [membersHeight, membersHeight, h.height_eq, hmembers.height_eq]

end

/-! ## Steady schemas -/

/-- Trees that are alike are both read, as the same, or both refused. -/
def Schema.IsSteady (a : Schema α) : Prop :=
  ∀ ⦃v w : Value⦄, v.Alike w → (a.ofValue v).toOption = (a.ofValue w).toOption

namespace Schema

theorem isSteady_never : (never : Schema α).IsSteady := fun _ _ _ => rfl

theorem isSteady_text : text.IsSteady := by
  intro v w h
  cases h <;> rfl

theorem IsSteady.refine {a : Schema α} (ha : a.IsSteady) (f : α → Except String β) :
    (a.refine f).IsSteady := by
  intro v w h
  simp only [Schema.refine, toOption_bind, ha h]

theorem IsSteady.map {a : Schema α} (ha : a.IsSteady) (f : α → β) : (a.map f).IsSteady := by
  intro v w h
  simp only [Schema.map, toOption_bind, ha h]

theorem IsSteady.optional {a : Schema α} (ha : a.IsSteady) : a.optional.IsSteady := by
  intro v w h
  have hread := ha h
  cases h with
  | null => rfl
  | _ => simp only [Schema.optional, toOption_bind, hread]

theorem either_toOption (name : String) (a b : Schema α) (v : Value) :
    ((either name a b).ofValue v).toOption
      = ((a.ofValue v).toOption <|> (b.ofValue v).toOption) := by
  simp only [either]
  cases a.ofValue v with
  | ok x => rfl
  | error e => cases b.ofValue v <;> rfl

theorem IsSteady.either {a b : Schema α} (ha : a.IsSteady) (hb : b.IsSteady) (name : String) :
    (Schema.either name a b).IsSteady := by
  intro v w h
  simp only [either_toOption, ha h, hb h]

theorem ofItems_toOption_alike {a : Schema α} (ha : a.IsSteady) (items : List Value)
    {items' : List Value} (h : ItemsAlike items items') :
    (a.ofItems items).toOption = (a.ofItems items').toOption := by
  induction items generalizing items' with
  | nil => cases h; rfl
  | cons v items ih =>
    cases h with
    | cons h hitems => simp only [ofItems, toOption_bind, ha h, ih hitems]

theorem IsSteady.list {a : Schema α} (ha : a.IsSteady) : (Schema.list a).IsSteady := by
  intro v w h
  cases h with
  | list h => exact ofItems_toOption_alike ha _ h
  | _ => rfl

end Schema

/-! ## Records -/

def Fields.IsSteady : {α : Type} → Fields α → Prop
  | _, .done => True
  | _, .field _ schema _ rest => schema.IsSteady ∧ rest.IsSteady

namespace Fields

/-- The slots once a member is seen, unless it is at fault. -/
def store {α : Type} : (fs : Fields α) → String × Value → fs.Slots → Option fs.Slots
  | .done, _, slots => some slots
  | @field β _ name schema _ rest, m, slots =>
    let places : Option β × rest.Slots := slots
    if m.1 = name then
      match places.1 with
      | some _ => none
      | none => (schema.ofValue m.2).toOption.map fun value => (some value, places.2)
    else (rest.store m places.2).map fun others => (places.1, others)

theorem store_eq_put (fs : Fields α) (key : String) (v : Value) (slots : fs.Slots) :
    fs.store (key, v) slots
      = match fs.put (fun schema => do return (← schema.ofValue v, ())) .duplicate key slots with
        | none => some slots
        | some filled => filled.toOption.map (·.1) := by
  induction fs with
  | done => rfl
  | field name schema fallback fields ih =>
    obtain ⟨slot, slots⟩ := slots
    simp only [store, put]
    split
    · cases slot with
      | some x => rfl
      | none => cases h : schema.ofValue v <;> rfl
    · rw [ih]
      cases fields.put _ _ key slots with
      | none => rfl
      | some filled => cases filled <;> rfl

theorem foldl_store_none (fs : Fields α) (members : List (String × Value)) :
    members.foldl (fun filled m => filled.bind (fs.store m)) none = none := by
  induction members with
  | nil => rfl
  | cons m members ih => exact ih

theorem ofMembers_toOption (fs : Fields α) (members : List (String × Value)) (slots : fs.Slots) :
    (fs.ofMembers members slots).toOption
      = members.foldl (fun filled m => filled.bind (fs.store m)) (some slots) := by
  induction members generalizing slots with
  | nil => rfl
  | cons m members ih =>
    obtain ⟨key, v⟩ := m
    rw [ofMembers, List.foldl_cons, Option.bind_some, store_eq_put]
    cases fs.put (fun schema => do return (← schema.ofValue v, ())) .duplicate key slots with
    | none => exact ih slots
    | some filled =>
      cases filled with
      | error e => exact (foldl_store_none fs members).symm
      | ok p => exact ih p.1

/-- A member for the first field and one for a later field fill slots of their own. -/
theorem store_comm_of_key {β : Type} (name : String) (schema : Schema β) (fallback : Option β)
    (fields : Fields α) {m n : String × Value} (hm : m.1 = name) (hn : n.1 ≠ name)
    (slots : (field name schema fallback fields).Slots) :
    ((field name schema fallback fields).store m slots).bind
        ((field name schema fallback fields).store n)
      = ((field name schema fallback fields).store n slots).bind
        ((field name schema fallback fields).store m) := by
  obtain ⟨slot, slots⟩ := slots
  simp only [store, hm, hn, if_true, if_false]
  cases slot with
  | some x => cases fields.store n slots <;> rfl
  | none =>
    cases (schema.ofValue m.2).toOption with
    | none => cases fields.store n slots <;> rfl
    | some x =>
      change (fields.store n slots).map (fun others => (some x, others)) = _
      cases fields.store n slots <;> rfl

/-- Two members for later fields leave the slot of the first as it is. -/
theorem store_store_of_key_ne {β : Type} (name : String) (schema : Schema β) (fallback : Option β)
    (fields : Fields α) {m n : String × Value} (hm : m.1 ≠ name) (hn : n.1 ≠ name)
    (slot : Option β) (slots : fields.Slots) :
    ((field name schema fallback fields).store m (slot, slots)).bind
        ((field name schema fallback fields).store n)
      = ((fields.store m slots).bind (fields.store n)).map (slot, ·) := by
  simp only [store, hm, hn, if_false]
  cases fields.store m slots <;> rfl

/-- Of two members it does not matter which one comes first: either they fill different slots, or
both orders are at fault. -/
theorem store_comm (fs : Fields α) (m n : String × Value) (slots : fs.Slots) :
    (fs.store m slots).bind (fs.store n) = (fs.store n slots).bind (fs.store m) := by
  induction fs with
  | done => rfl
  | field name schema fallback fields ih =>
    by_cases hm : m.1 = name <;> by_cases hn : n.1 = name
    · obtain ⟨slot, slots⟩ := slots
      simp only [store, hm, hn, if_true]
      cases slot with
      | some x => rfl
      | none =>
        cases (schema.ofValue m.2).toOption <;> cases (schema.ofValue n.2).toOption <;> rfl
    · exact store_comm_of_key name schema fallback fields hm hn slots
    · exact (store_comm_of_key name schema fallback fields hn hm slots).symm
    · obtain ⟨slot, slots⟩ := slots
      rw [store_store_of_key_ne name schema fallback fields hm hn,
        store_store_of_key_ne name schema fallback fields hn hm, ih]

theorem ofMembers_toOption_perm (fs : Fields α) {members members' : List (String × Value)}
    (h : members.Perm members') (slots : fs.Slots) :
    (fs.ofMembers members slots).toOption = (fs.ofMembers members' slots).toOption := by
  rw [ofMembers_toOption, ofMembers_toOption]
  refine h.foldl_eq' (fun m _ n _ filled => ?_) (some slots)
  cases filled with
  | none => rfl
  | some slots => exact store_comm fs m n slots

theorem store_alike {fs : Fields α} (hfs : fs.IsSteady) (key : String) {v w : Value}
    (h : v.Alike w) (slots : fs.Slots) : fs.store (key, v) slots = fs.store (key, w) slots := by
  induction fs with
  | done => rfl
  | field name schema fallback fields ih =>
    simp only [store, hfs.1 h, ih hfs.2]

theorem ofMembers_toOption_alike {fs : Fields α} (hfs : fs.IsSteady)
    (members : List (String × Value)) {members' : List (String × Value)}
    (h : MembersAlike members members') (slots : fs.Slots) :
    (fs.ofMembers members slots).toOption = (fs.ofMembers members' slots).toOption := by
  rw [ofMembers_toOption, ofMembers_toOption]
  generalize some slots = filled
  induction members generalizing members' filled with
  | nil => cases h; rfl
  | cons m members ih =>
    cases h with
    | @cons key v w _ members' h hmembers =>
      have hstore : fs.store (key, v) = fs.store (key, w) := funext (store_alike hfs key h)
      rw [List.foldl_cons, List.foldl_cons, hstore]
      exact ih hmembers _

theorem ofItems_toOption_alike {fs : Fields α} (hfs : fs.IsSteady) (record : String) (total : Nat)
    (index : Nat) {items items' : List Value} (h : ItemsAlike items items') :
    Option.Rel (fun p q => p.1 = q.1 ∧ ItemsAlike p.2 q.2)
      (fs.ofItems record total index items).toOption
      (fs.ofItems record total index items').toOption := by
  induction fs generalizing index items items' with
  | done => exact .some ⟨rfl, h⟩
  | field name schema fallback fields ih =>
    obtain ⟨hschema, hfields⟩ := hfs
    cases h with
    | nil =>
      rw [ofItems.eq_def]
      cases fallback with
      | none => exact .none
      | some x =>
        simp only [toOption_bind]
        exact rel_bind (ih hfields (index + 1) .nil) fun p q h => .some ⟨congrArg (x, ·) h.1, h.2⟩
    | cons h hitems =>
      rw [ofItems, ofItems]
      simp only [toOption_bind, hschema h]
      generalize (schema.ofValue _).toOption = value
      cases value with
      | none => exact .none
      | some x =>
        simp only [Option.bind_some]
        exact rel_bind (ih hfields (index + 1) hitems) fun p q h => .some ⟨congrArg (x, ·) h.1, h.2⟩

end Fields

namespace Schema

theorem IsSteady.record {fields : Fields α} (hfields : fields.IsSteady) (name : String) :
    (Schema.record name fields).IsSteady := by
  intro v w h
  cases h with
  | list h =>
    have hitems := Fields.ofItems_toOption_alike hfields name fields.count 0 h
    simp only [Schema.record, toOption_bind]
    revert hitems
    generalize (fields.ofItems name fields.count 0 _).toOption = read
    generalize (fields.ofItems name fields.count 0 _).toOption = read'
    intro hitems
    cases hitems with
    | none => rfl
    | @some p q h =>
      obtain ⟨x, left⟩ := p
      obtain ⟨y, left'⟩ := q
      obtain ⟨rfl, hleft⟩ := h
      cases hleft <;> rfl
  | object h hperm =>
    simp only [Schema.record, toOption_bind, Fields.ofMembers_toOption_alike hfields _ h,
      Fields.ofMembers_toOption_perm fields hperm]
  | _ => rfl

theorem IsSteady.choice {variants : List (String × Schema α)}
    (hvariants : ∀ p ∈ variants, p.2.IsSteady) : (Schema.choice variants).IsSteady := by
  intro v w h
  cases h with
  | @object _ _ members' h hperm =>
    cases h with
    | nil => rw [hperm.nil_eq]
    | @cons key v w _ _ h hmembers =>
      cases hmembers with
      | nil =>
        rw [← hperm.singleton_eq]
        simp only [Schema.choice, toOption_bind]
        cases hvariant : variant variants key with
        | error e => rfl
        | ok schema => exact hvariants (key, schema) (mem_of_variant hvariant) h
      | cons =>
        have hlength := hperm.length_eq
        cases members' with
        | nil => cases hlength
        | cons m members' =>
          cases members' with
          | nil => cases hlength
          | cons n members' => rfl
  | _ => rfl

end Schema

/-! ## Texts and trees -/

/-- The schema reads every text as it reads the tree that the text denotes. -/
structure Schema.Agrees (a : Schema α) : Prop where
  faithful : a.IsFaithful
  steady : a.IsSteady

def Fields.Agrees : {α : Type} → Fields α → Prop
  | _, .done => True
  | _, .field _ schema _ rest => schema.Agrees ∧ rest.Agrees

theorem Fields.agrees_done : Fields.done.Agrees := trivial

theorem Fields.Agrees.faithful {fs : Fields α} (h : fs.Agrees) : fs.IsFaithful := by
  induction fs with
  | done => trivial
  | field name schema fallback fields ih => exact ⟨h.1.faithful, ih h.2⟩

theorem Fields.Agrees.steady {fs : Fields α} (h : fs.Agrees) : fs.IsSteady := by
  induction fs with
  | done => trivial
  | field name schema fallback fields ih => exact ⟨h.1.steady, ih h.2⟩

namespace Schema

theorem agrees_never : (never : Schema α).Agrees := ⟨isFaithful_never, isSteady_never⟩

theorem agrees_text : text.Agrees := ⟨isFaithful_text, isSteady_text⟩

theorem Agrees.refine {a : Schema α} (h : a.Agrees) (f : α → Except String β) :
    (a.refine f).Agrees :=
  ⟨h.faithful.refine f, h.steady.refine f⟩

theorem Agrees.map {a : Schema α} (h : a.Agrees) (f : α → β) : (a.map f).Agrees :=
  ⟨h.faithful.map f, h.steady.map f⟩

theorem Agrees.optional {a : Schema α} (h : a.Agrees) : a.optional.Agrees :=
  ⟨h.faithful.optional, h.steady.optional⟩

theorem Agrees.either {a b : Schema α} (ha : a.Agrees) (hb : b.Agrees) (name : String) :
    (Schema.either name a b).Agrees :=
  ⟨isFaithful_either name a b, ha.steady.either hb.steady name⟩

theorem Agrees.list {a : Schema α} (h : a.Agrees) : (Schema.list a).Agrees :=
  ⟨h.faithful.list, h.steady.list⟩

theorem Agrees.record {fields : Fields α} (h : fields.Agrees) (name : String) :
    (Schema.record name fields).Agrees :=
  ⟨IsFaithful.record h.faithful name, IsSteady.record h.steady name⟩

theorem Agrees.choice {variants : List (String × Schema α)}
    (h : ∀ p ∈ variants, p.2.Agrees) : (Schema.choice variants).Agrees :=
  ⟨IsFaithful.choice fun p hp => (h p hp).faithful, IsSteady.choice fun p hp => (h p hp).steady⟩

theorem Agrees.parse_toOption {a : Schema α} (h : a.Agrees) {text : String} {v : Value}
    (ht : Denotes text v) (hdepth : v.height < depthLimit) :
    (a.parse text).toOption = (a.ofValue v).toOption := by
  obtain ⟨w, rest, hw, hrest, hv⟩ := ht
  have hread := h.faithful hw (show w.height < depthLimit by rwa [hv.height_eq])
  rw [parse, toOption_bind, hread, h.steady hv]
  cases (a.ofValue v).toOption with
  | none => rfl
  | some x =>
    simp only [Option.map_some, Option.bind_some, closeText_of_blanks hrest, ok_bind]
    rfl

end Schema

end RoutePlan.Json
