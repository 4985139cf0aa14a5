import RoutePlan.Proofs.Target
import RoutePlan.RouteTable

/-! # Handler names

The name of a handler puts the segments of the chain, each closed by a double colon, before a
shorthand. Where neither a segment nor the controller holds a colon or a `#`, the descriptor is read
back from the name: the first `#` begins the action, whatever stands behind it, and the colons
before it come in pairs, each of which closes a segment.
-/

namespace RoutePlan

/-! ## Texts between double colons -/

/-- The texts that double colons separate; there is one more than there are double colons. -/
def unqualified : List Char → List (List Char)
  | [] => [[]]
  | ':' :: ':' :: rest => [] :: unqualified rest
  | c :: rest =>
    match unqualified rest with
    | [] => [[c]]
    | text :: more => (c :: text) :: more

theorem unqualified_cons {c : Char} {rest text : List Char} {more : List (List Char)}
    (hc : c ≠ ':') (h : unqualified rest = text :: more) :
    unqualified (c :: rest) = (c :: text) :: more := by
  rw [unqualified.eq_3 c rest fun _ hcolon _ => hc hcolon, h]

/-- A text without a colon ends at the first double colon, or with the whole. -/
theorem unqualified_append {text rest : List Char} {first : List Char}
    {more : List (List Char)} (htext : ':' ∉ text) (h : unqualified rest = first :: more) :
    unqualified (text ++ rest) = (text ++ first) :: more := by
  induction text with
  | nil => exact h
  | cons c text ih =>
    rw [List.mem_cons, not_or] at htext
    exact unqualified_cons (Ne.symm htext.1) (ih htext.2)

/-- What is qualified by a chain is taken apart again. -/
theorem unqualified_chain {chain : List String} {last : List Char}
    (hchain : ∀ s ∈ chain, ':' ∉ s.toList) (hlast : ':' ∉ last) :
    unqualified (chain.flatMap (fun s => s.toList ++ [':', ':']) ++ last) =
      chain.map String.toList ++ [last] := by
  induction chain with
  | nil =>
    have hnil : unqualified [] = [[]] := by rw [unqualified]
    have happend := unqualified_append hlast hnil
    rw [List.append_nil] at happend
    exact happend
  | cons s chain ih =>
    obtain ⟨hs, hchain⟩ := List.forall_mem_cons.mp hchain
    have hcolons (rest : List Char) :
        unqualified (':' :: ':' :: rest) = [] :: unqualified rest := by
      rw [unqualified]
    have happend := unqualified_append hs
      (hcolons (chain.flatMap (fun s => s.toList ++ [':', ':']) ++ last))
    rw [ih hchain, List.append_nil] at happend
    rw [List.flatMap_cons, List.append_assoc, List.append_assoc]
    exact happend

/-! ## Reading a handler name -/

namespace Descriptor

/-- Neither a colon nor a `#` stands in the chain or in the controller. -/
def IsNameable (d : Descriptor) : Prop :=
  ∀ s ∈ d.chain ++ [d.controller], ':' ∉ s.toList ∧ '#' ∉ s.toList

instance (d : Descriptor) : Decidable d.IsNameable := by
  unfold IsNameable
  infer_instance

/-- The controller with its qualification, which is what stands before the `#`. -/
def qualified (d : Descriptor) : String :=
  String.join (d.chain.map fun s => s ++ "::") ++ d.controller

theorem handlerName_eq (d : Descriptor) : d.handlerName = d.qualified ++ "#" ++ d.action := rfl

theorem toList_qualified (d : Descriptor) :
    d.qualified.toList =
      d.chain.flatMap (fun s => s.toList ++ [':', ':']) ++ d.controller.toList := by
  rw [qualified, String.toList_append, String.toList_join, List.flatMap_map]
  simp

theorem IsNameable.hash_notMem_qualified {d : Descriptor} (hd : d.IsNameable) :
    '#' ∉ d.qualified.toList := by
  rw [toList_qualified, List.mem_append, List.mem_flatMap]
  rintro (⟨s, hs, hmem⟩ | hmem)
  · rcases List.mem_append.mp hmem with hmem | hmem
    · exact (hd s (List.mem_append_left _ hs)).2 hmem
    · exact absurd hmem (by decide)
  · exact (hd d.controller (List.mem_append_right _ (List.mem_singleton_self _))).2 hmem

/-- The descriptor in a handler name, which is a shorthand with a qualified controller. -/
def ofHandlerName (name : String) : Descriptor :=
  let target := TargetSpec.reading (.shorthand name)
  let texts := unqualified target.controller.toList
  { controller := String.ofList (texts.getLastD [])
    action := target.action
    chain := texts.dropLast.map String.ofList }

theorem IsNameable.ofHandlerName_handlerName {d : Descriptor} (hd : d.IsNameable) :
    ofHandlerName d.handlerName = d := by
  have hreading := TargetSpec.reading_append_hash d.action hd.hash_notMem_qualified
  have htexts : unqualified d.qualified.toList =
      d.chain.map String.toList ++ [d.controller.toList] := by
    rw [toList_qualified]
    apply unqualified_chain
    · exact fun s hs => (hd s (List.mem_append_left _ hs)).1
    · exact (hd d.controller (List.mem_append_right _ (List.mem_singleton_self _))).1
  have hchain : (d.chain.map String.toList).map String.ofList = d.chain := by
    rw [List.map_map]
    simp [Function.comp_def]
  simp only [ofHandlerName, handlerName_eq, hreading, htexts, List.getLastD_concat,
    List.dropLast_concat, String.ofList_toList, hchain]

/-- The resolver of the library's own table gives a nameable descriptor a name from which it is
read back, whatever its action holds. So no other nameable descriptor has this name. -/
theorem handlerName_identifies {d : Descriptor} (hd : d.IsNameable) (table : RouteTable) :
    let name := (RouteTable.sink.resolve d table).handlerName
    ofHandlerName name = d ∧
      ∀ (e : Descriptor) (other : RouteTable), e.IsNameable →
        (RouteTable.sink.resolve e other).handlerName = name → e = d := by
  intro name
  refine ⟨hd.ofHandlerName_handlerName, ?_⟩
  intro e other he hname
  calc e = ofHandlerName e.handlerName := he.ofHandlerName_handlerName.symm
    _ = ofHandlerName d.handlerName := congrArg ofHandlerName hname
    _ = d := hd.ofHandlerName_handlerName

/-- An empty segment leaves four colons in a row, and the action holds both separators. -/
theorem handlerName_identifies_separators :
    let d : Descriptor := ⟨"users", "a::b#c", ["api", "", "v1"]⟩
    d.handlerName = "api::::v1::users#a::b#c" ∧ ofHandlerName "api::::v1::users#a::b#c" = d ∧
      ∀ e : Descriptor, e.IsNameable → e.handlerName = "api::::v1::users#a::b#c" → e = d := by
  intro d
  have hname : d.handlerName = "api::::v1::users#a::b#c" := by decide
  have hd : d.IsNameable := by decide
  have hidentifies := handlerName_identifies hd {}
  refine ⟨hname, ?_, ?_⟩
  · rw [← hname]
    exact hidentifies.1
  · intro e he hen
    exact hidentifies.2 e {} he (hen.trans hname.symm)

end Descriptor
end RoutePlan
