import Mathlib.Data.List.Nodup
import RoutePlan.RouteTable

/-! # Looking routes up

A table is searched from its last route on. Where no two routes have the same method and path,
the search for the method and path of a route ends at that route.
-/

namespace RoutePlan

/-- What a route is looked up by. -/
def Route.key (r : Route) : String × String := (r.verb.method, r.path)

namespace RouteTable

variable {t : RouteTable}

theorem serves_iff (r s : Route) : serves r.verb.method r.path s = true ↔ s.key = r.key := by
  simp [serves, Route.key]

theorem find?_of_nodup (h : (t.routes.map Route.key).Nodup) {r : Route} (hr : r ∈ t.routes) :
    t.find? r.verb.method r.path = some r := by
  have hserves : serves r.verb.method r.path r = true := (serves_iff r r).mpr rfl
  cases hfind : t.find? r.verb.method r.path with
  | none =>
    have hnone := List.find?_eq_none.mp hfind r (List.mem_reverse.mpr hr)
    exact absurd hserves hnone
  | some s =>
    have hs : s ∈ t.routes := List.mem_reverse.mp (List.mem_of_find?_eq_some hfind)
    have hkey := (serves_iff r s).mp (List.find?_some hfind)
    rw [List.inj_on_of_nodup_map h hs hr hkey]

theorem findIdx?_of_nodup (h : (t.routes.map Route.key).Nodup) (i : Nat)
    (hi : i < t.routes.length) :
    t.findIdx? t.routes[i].verb.method t.routes[i].path = some i := by
  have hserves : ∀ (j : Nat) (hj : j < t.routes.length),
      serves t.routes[i].verb.method t.routes[i].path t.routes[j] = true ↔ j = i := by
    intro j hj
    rw [serves_iff]
    constructor
    · intro hkey
      have hget : (t.routes.map Route.key).get ⟨j, by simpa using hj⟩ =
          (t.routes.map Route.key).get ⟨i, by simpa using hi⟩ := by simpa using hkey
      exact congrArg Fin.val ((List.Nodup.get_inj_iff h).mp hget)
    · rintro rfl
      rfl
  have hfound : t.routes.reverse.findIdx? (serves t.routes[i].verb.method t.routes[i].path) =
      some (t.routes.length - 1 - i) := by
    rw [List.findIdx?_eq_some_iff_getElem]
    refine ⟨by simp; omega, ?_, fun j hj => ?_⟩
    · rw [List.getElem_reverse, hserves]
      omega
    · rw [List.getElem_reverse, hserves]
      omega
  rw [findIdx?, hfound, Option.map_some, size]
  congr 1
  omega

end RouteTable
end RoutePlan
