import RoutePlan.Pattern
import RoutePlan.Proofs.Regex.Matching

/-! # Texts that are read whole

A text that is read whole whatever follows it takes the reader from one reading to another, and
such texts can be put one behind the other. At the outermost level, with no flag set and no
group named, a reading is no more than the expressions read so far.
-/

namespace RoutePlan.Regex

/-- The text takes the reader from the first reading to the second, in no more pieces than it
has characters. -/
def Reads (r : Reading) (text : List Char) (s : Reading) : Prop :=
  ∃ n ≤ text.length, ∀ fuel tail,
    readPieces (n + fuel) r (text ++ tail) = readPieces fuel s tail

/-- The outermost level with these expressions and their heights on it. -/
def Reading.flat (es : List (Expr × Nat)) (groups : Nat) : Reading :=
  { level := { items := (es.map fun e => .expr e.1 e.2).reverse }, groups }

variable {r s t : Reading} {text more : List Char}

theorem Reads.nil (r : Reading) : Reads r [] r :=
  ⟨0, Nat.le_refl 0, fun fuel tail => by rw [Nat.zero_add, List.nil_append]⟩

theorem Reads.append (h : Reads r text s) (h' : Reads s more t) : Reads r (text ++ more) t := by
  obtain ⟨n, hn, hr⟩ := h
  obtain ⟨m, hm, hs⟩ := h'
  refine ⟨n + m, by simp only [List.length_append]; omega, fun fuel tail => ?_⟩
  rw [Nat.add_assoc, List.append_assoc, hr, hs]

theorem readPieces_step {c : Char} {cs rest : List Char} (fuel : Nat)
    (hskip : r.flags.skip cs = c :: rest) (h : readPiece r (c :: rest) = some (s, text)) :
    readPieces (fuel + 1) r cs = readPieces fuel s text := by
  rw [readPieces, hskip]
  simp only [h]
  rfl

theorem Flags.skip_of_not_spaced {f : Flags} (h : f.spaced = false) (cs : List Char) :
    f.skip cs = cs := by
  rw [skip, h]
  rfl

theorem Reads.piece {c : Char} {rest : List Char} (hspaced : r.flags.spaced = false)
    (h : ∀ tail, readPiece r (c :: rest ++ tail) = some (s, tail)) : Reads r (c :: rest) s := by
  refine ⟨1, by simp, fun fuel tail => ?_⟩
  rw [Nat.add_comm]
  exact readPieces_step fuel (Flags.skip_of_not_spaced hspaced _) (h tail)

/-! ## Groups -/

/-- The text takes the reader from the first reading to the second where a parenthesis closes
behind it. What a piece is may depend on what follows it, such as a question mark. -/
def ReadsInside (r : Reading) (text : List Char) (s : Reading) : Prop :=
  ∃ n ≤ text.length, ∀ fuel tail,
    readPieces (n + fuel) r (text ++ ')' :: tail) = readPieces fuel s (')' :: tail)

theorem Reads.appendInside (h : Reads r text s) (h' : ReadsInside s more t) :
    ReadsInside r (text ++ more) t := by
  obtain ⟨n, hn, hr⟩ := h
  obtain ⟨m, hm, hs⟩ := h'
  refine ⟨n + m, by simp only [List.length_append]; omega, fun fuel tail => ?_⟩
  rw [Nat.add_assoc, List.append_assoc, hr, hs]

theorem ReadsInside.piece {c : Char} {rest : List Char} (hspaced : r.flags.spaced = false)
    (h : ∀ tail, readPiece r (c :: rest ++ ')' :: tail) = some (s, ')' :: tail)) :
    ReadsInside r (c :: rest) s := by
  refine ⟨1, by simp, fun fuel tail => ?_⟩
  rw [Nat.add_comm]
  exact readPieces_step fuel (Flags.skip_of_not_spaced hspaced _) (h tail)

/-- A closing parenthesis is not skipped. -/
theorem Flags.skip_close (f : Flags) (cs : List Char) : f.skip (')' :: cs) = ')' :: cs := by
  have hblank : ¬Text.isBlank ')' = true := by decide
  rw [skip]
  split
  · rw [skipBlanks, if_neg hblank, if_neg (by decide)]
  · rfl

theorem readGroup_numbered {cs : List Char} (hspaced : r.flags.spaced = false)
    (h : cs.head? ≠ some '?') :
    readGroup r cs = some (r.openGroup (some (r.groups + 1)) r.flags, cs) := by
  have hskip := Flags.skip_of_not_spaced hspaced cs
  unfold readGroup
  rw [hskip]
  split
  all_goals first
    | exact absurd rfl h
    | rfl

theorem readPieces_open {cs : List Char} (hspaced : r.flags.spaced = false)
    (h : cs.head? ≠ some '?') (fuel : Nat) :
    readPieces (fuel + 1) r ('(' :: cs) =
      readPieces fuel (r.openGroup (some (r.groups + 1)) r.flags) cs :=
  readPieces_step fuel (Flags.skip_of_not_spaced hspaced _) (readGroup_numbered hspaced h)

/-- A text that is read inside a numbered group makes one expression with its parentheses. -/
theorem ReadsInside.group (hspaced : r.flags.spaced = false) (hhead : text.head? ≠ some '?')
    (h : ReadsInside (r.openGroup (some (r.groups + 1)) r.flags) text s)
    (hclose : s.closeGroup? = some t) : Reads r ('(' :: text ++ [')']) t := by
  obtain ⟨n, hn, hpieces⟩ := h
  refine ⟨n + 2, by simp; omega, fun fuel tail => ?_⟩
  have hopened : (text ++ ')' :: tail).head? ≠ some '?' := by
    cases text with
    | nil => simp
    | cons c text => simpa using hhead
  have hopen := readPieces_open hspaced hopened (n + (fuel + 1))
  have hlast : readPiece s (')' :: tail) = some (t, tail) := by
    rw [readPiece, hclose, Option.map_some]
  have hend := readPieces_step fuel (s.flags.skip_close tail) hlast
  have hassoc : '(' :: text ++ [')'] ++ tail = '(' :: (text ++ ')' :: tail) := by simp
  rw [hassoc, show n + 2 + fuel = n + (fuel + 1) + 1 by omega, hopen, hpieces, hend]

/-! ## Flat readings -/

namespace Reading

variable (es : List (Expr × Nat)) (groups : Nat)

@[simp] theorem push_flat (e : Expr) (height : Nat) :
    (flat es groups).push e height = flat (es ++ [(e, height)]) groups := by
  simp [flat, push, Level.push]

@[simp] theorem flags_flat : (flat es groups).flags = {} := rfl

end Reading

open Reading (flat)

theorem foldl_height_le {bound : Nat} {items : List Item} {start : Nat} (hstart : start ≤ bound)
    (h : ∀ e height, Item.expr e height ∈ items → height ≤ bound) :
    items.foldl (fun h item => match item with
      | .flags => h
      | .expr _ height => max h height) start ≤ bound := by
  induction items generalizing start with
  | nil => exact hstart
  | cons item items ih =>
    have hrest : ∀ e height, Item.expr e height ∈ items → height ≤ bound :=
      fun e height hm => h e height (List.mem_cons_of_mem _ hm)
    cases item with
    | flags => exact ih hstart hrest
    | expr e height => exact ih (Nat.max_le.mpr ⟨hstart, h e height List.mem_cons_self⟩) hrest

/-- What is read flat is the sequence of its expressions, unless it nests too deeply. -/
theorem read?_eq_of_reads {cs : List Char} {es : List (Expr × Nat)} {groups : Nat}
    (h : Reads (flat [] 0) cs (flat es groups)) :
    read? cs = if (Branch.ofItems (flat es groups).level.items).2 ≤ nestLimit then
      some (Expr.seqAll (es.map (·.1))) else none := by
  have hread : readPieces (cs.length + 1) {} cs = some (flat es groups) := by
    obtain ⟨n, hn, hpieces⟩ := h
    have hend := hpieces (cs.length - n + 1) []
    rw [List.append_nil, ← Nat.add_assoc, Nat.add_sub_cancel' hn] at hend
    exact hend
  have hexprs : (Branch.ofItems (flat es groups).level.items).1 = Expr.seqAll (es.map (·.1)) := by
    simp only [Branch.ofItems, flat, List.reverse_reverse, List.filterMap_map]
    exact congrArg Expr.seqAll (congrFun List.filterMap_eq_map es)
  have hclose : (flat es groups).level.close = Branch.ofItems (flat es groups).level.items := by
    simp [Level.close, Branch.choice, flat, Expr.altAll]
  have hread? : read? cs = if (flat es groups).level.close.2 ≤ nestLimit then
      some (flat es groups).level.close.1 else none := by
    rw [read?, hread]
    rfl
  rw [hread?, hclose, hexprs]

theorem read?_of_reads {cs : List Char} {es : List (Expr × Nat)} {groups : Nat}
    (h : Reads (flat [] 0) cs (flat es groups)) (hheight : ∀ e ∈ es, e.2 < nestLimit) :
    read? cs = some (Expr.seqAll (es.map (·.1))) := by
  have hitems : ∀ e height, Item.expr e height ∈ (flat es groups).level.items →
      height ≤ nestLimit - 1 := by
    intro e height hm
    simp only [flat, List.mem_reverse, List.mem_map, Item.expr.injEq] at hm
    obtain ⟨x, hx, rfl, rfl⟩ := hm
    have := hheight x hx
    omega
  have hmax := foldl_height_le (Nat.zero_le _) hitems
  have hle : (Branch.ofItems (flat es groups).level.items).2 ≤ nestLimit := by
    rw [Branch.ofItems]
    split
    · exact Nat.le_trans hmax (Nat.sub_le _ _)
    · exact Nat.add_le_of_le_sub (by decide) hmax
  rw [read?_eq_of_reads h, if_pos hle]

/-! ## Literal texts -/

section
variable (es : List (Expr × Nat)) (groups : Nat)

theorem reads_literal {c : Char} (hc : isMeta c = false) :
    Reads (flat es groups) [c] (flat (es ++ [(Expr.literal c, 0)]) groups) := by
  refine Reads.piece rfl fun tail => ?_
  have hpush := Reading.push_flat es groups (Expr.literal c) 0
  rw [← hpush]
  simp [isMeta] at hc
  simp [readPiece, hc]
  rfl

theorem reads_quoted {c : Char} (hc : isMeta c = true) :
    Reads (flat es groups) ['\\', c] (flat (es ++ [(Expr.literal c, 0)]) groups) := by
  have hescape : ∀ tail, readEscape {} (c :: tail) = some (.literal c false, tail) := by
    intro tail
    simp [isMeta] at hc
    rcases hc with rfl | rfl | rfl | rfl | rfl | rfl | rfl | rfl | rfl | rfl | rfl | rfl | rfl |
      rfl | rfl | rfl | rfl | rfl <;> rfl
  refine Reads.piece rfl fun tail => ?_
  have hpush := Reading.push_flat es groups (Expr.literal c) 0
  simp only [List.cons_append, List.nil_append, readPiece, Reading.flags_flat, hescape]
  exact congrArg (fun r => some (r, tail)) hpush

theorem reads_quote (text : List Char) :
    Reads (flat es groups) (Pattern.quote text)
      (flat (es ++ text.map fun c => (Expr.literal c, 0)) groups) := by
  induction text generalizing es with
  | nil => simpa [Pattern.quote] using Reads.nil (flat es groups)
  | cons c text ih =>
    have hfirst : Reads (flat es groups) (if isMeta c then ['\\', c] else [c])
        (flat (es ++ [(Expr.literal c, 0)]) groups) := by
      split
      · rename_i hc
        exact reads_quoted es groups hc
      · rename_i hc
        exact reads_literal es groups (by simpa using hc)
    simpa [Pattern.quote] using hfirst.append (ih (es ++ [(Expr.literal c, 0)]))

theorem reads_anchors (text : List Char) {fs : List (Expr × Nat)} {groups' : Nat}
    (h : Reads (flat [(.look .textStart, 0)] 0) text
      (flat ([(.look .textStart, 0)] ++ fs) groups')) :
    Reads (flat [] 0) ('^' :: text ++ ['$'])
      (flat ((.look .textStart, 0) :: fs ++ [(.look .textEnd, 0)]) groups') := by
  have hstart : Reads (flat [] 0) ['^'] (flat [(.look .textStart, 0)] 0) :=
    Reads.piece rfl fun tail => rfl
  have hend : Reads (flat ([(.look .textStart, 0)] ++ fs) groups') ['$']
      (flat ((.look .textStart, 0) :: fs ++ [(.look .textEnd, 0)]) groups') := by
    refine Reads.piece rfl fun tail => ?_
    exact congrArg (fun r => some (r, tail)) (Reading.push_flat ..)
  exact (hstart.append h).append hend

end

end RoutePlan.Regex
