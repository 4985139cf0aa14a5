import RoutePlan.Proofs.Json.Printing
import RoutePlan.RouteTable.Rendering

/-! # The JSON rendering

A table rendered as JSON is read back as a list with one object for each row. The object holds
all that a row is made of, so that no two tables are rendered as the same text.
-/

namespace RoutePlan

open Json (Value)

theorem Method.ext {m m' : Method} (h : m.name = m'.name) : m = m' := by
  cases m
  cases m'
  cases h
  rfl

namespace Json

theorem itemsVerbal_text (texts : List String) : ItemsVerbal (texts.map Value.text) := by
  induction texts with
  | nil => trivial
  | cons t texts ih => exact ⟨trivial, ih⟩

theorem itemsHeight_text (texts : List String) : itemsHeight (texts.map Value.text) = 0 := by
  induction texts with
  | nil => rfl
  | cons t texts ih => rw [List.map_cons, itemsHeight, ih, Value.height, Nat.max_self]

end Json

namespace Row

variable {r r' : Row}

/-- The value is an object whose members are what the row consists of, each under its key. -/
structure ShownAs (r : Row) (members : List (String × Value)) : Prop where
  keys : (members.map (·.1)).Perm
    ["method", "path", "handler", "controller", "action", "namespace"]
  method : members.lookup "method" = some (.text r.method.name)
  path : members.lookup "path" = some (.text r.path)
  handler : members.lookup "handler" = some (.text r.dispatch.handlerName)
  controller : members.lookup "controller" = some (.text r.dispatch.target.controller)
  action : members.lookup "action" = some (.text r.dispatch.target.action)
  chain : members.lookup "namespace" = some (.list (r.dispatch.target.chain.map .text))

theorem json_shown (r : Row) : ∃ members, r.json = .object members ∧ r.ShownAs members := by
  refine ⟨_, rfl, ?_, rfl, rfl, rfl, rfl, rfl, rfl⟩
  change List.Perm ["action", "controller", "handler", "method", "namespace", "path"] _
  decide

/-- The members of an object show one row at most. -/
theorem ShownAs.unique {members : List (String × Value)} (h : r.ShownAs members)
    (h' : r'.ShownAs members) : r = r' := by
  have text {key t t' : String} (h : members.lookup key = some (.text t))
      (h' : members.lookup key = some (.text t')) : t = t' :=
    Value.text.inj (Option.some.inj (h.symm.trans h'))
  have hmethod : r.method = r'.method := Method.ext (text h.method h'.method)
  have hchain : r.dispatch.target.chain = r'.dispatch.target.chain :=
    List.map_injective_iff.mpr (fun _ _ => Value.text.inj)
      (Value.list.inj (Option.some.inj (h.chain.symm.trans h'.chain)))
  have hpath := text h.path h'.path
  have hhandler := text h.handler h'.handler
  have hcontroller := text h.controller h'.controller
  have haction := text h.action h'.action
  obtain ⟨method, path, handler, controller, action, chain⟩ := r
  obtain ⟨method', path', handler', controller', action', chain'⟩ := r'
  simp only at hmethod hpath hhandler hcontroller haction hchain
  subst hmethod hpath hhandler hcontroller haction hchain
  rfl

theorem json_injective : Function.Injective json := by
  intro r r' h
  obtain ⟨members, hr, hshown⟩ := r.json_shown
  obtain ⟨members', hr', hshown'⟩ := r'.json_shown
  obtain rfl : members = members' := Value.object.inj (by rw [← hr, ← hr', h])
  exact hshown.unique hshown'

theorem isVerbal_json (r : Row) : r.json.IsVerbal := by
  refine ⟨⟨trivial, trivial, trivial, trivial, Json.itemsVerbal_text _, trivial, trivial⟩, ?_⟩
  change List.Nodup ["action", "controller", "handler", "method", "namespace", "path"]
  decide

theorem height_json (r : Row) : r.json.height = 2 := by
  simp only [json, Value.height, Json.membersHeight, Json.itemsHeight_text]
  rfl

theorem itemsVerbal_json (rows : List Row) : Json.ItemsVerbal (rows.map json) := by
  induction rows with
  | nil => trivial
  | cons r rows ih => exact ⟨r.isVerbal_json, ih⟩

theorem itemsHeight_json_le (rows : List Row) : Json.itemsHeight (rows.map json) ≤ 2 := by
  induction rows with
  | nil => exact Nat.zero_le 2
  | cons r rows ih =>
    rw [List.map_cons, Json.itemsHeight, height_json]
    exact Nat.max_le.mpr ⟨Nat.le_refl 2, ih⟩

/-- The rendering is read as the list of the rows, also with blanks behind it. -/
theorem parse_render (rows : List Row) (after : String)
    (hafter : ∀ c ∈ after.toList, Json.isBlank c = true) :
    Json.parse (render rows .json ++ after) = .ok (.list (rows.map json)) := by
  have hverbal : (Value.list (rows.map json)).IsVerbal := itemsVerbal_json rows
  refine hverbal.parse_toText ?_ hafter
  have hheight := itemsHeight_json_le rows
  simp only [Value.height, Json.depthLimit]
  omega

theorem render_json_injective : Function.Injective fun rows => render rows .json := by
  intro rows rows' h
  have hsame : render rows .json = render rows' .json := h
  have hread := parse_render rows "" (by simp)
  rw [hsame, parse_render rows' "" (by simp)] at hread
  exact List.map_injective_iff.mpr json_injective (Value.list.inj (Except.ok.inj hread)).symm

end Row

theorem Route.row_injective : Function.Injective Route.row := by
  rintro ⟨verb, path, dispatch⟩ ⟨verb', path', dispatch'⟩ h
  obtain ⟨hmethod, hpath, hdispatch⟩ := Row.mk.inj h
  obtain rfl : verb = verb' := Verb.method_injective (congrArg Method.name hmethod)
  obtain rfl : path = path' := hpath
  obtain rfl : dispatch = dispatch' := hdispatch
  rfl

theorem RouteTable.rows_injective : Function.Injective RouteTable.rows := by
  rintro ⟨routes⟩ ⟨routes'⟩ h
  exact congrArg RouteTable.mk (List.map_injective_iff.mpr Route.row_injective h)

end RoutePlan
