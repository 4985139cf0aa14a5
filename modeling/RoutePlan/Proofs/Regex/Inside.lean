import RoutePlan.Proofs.Pattern.Source
import RoutePlan.Proofs.Regex.Kept.Piece

/-! # A pattern inside a pattern

A pattern that is read alone opens every group that it closes. So in front of a closing
parenthesis it goes through the same pieces, above levels that it never reaches: its groups have
other numbers there, but no number decides whether a pattern is one.
-/

namespace RoutePlan.Regex

open Reading (flat)

/-! ## Shapes -/

/-- What matters of an item: the height of an expression; a change of flags has none. -/
def Item.shape : Item → Option Nat
  | .flags => none
  | .expr _ height => some height

def Level.shape (l : Level) : List Nat × List (Option Nat) :=
  (l.branches.map (·.2), l.items.map Item.shape)

def Waiting.shape (w : Waiting) : (List Nat × List (Option Nat)) × Flags :=
  (w.level.shape, w.flags)

theorem Branch.height_ofItems_eq (items : List Item) :
    (Branch.ofItems items).2 =
      let height := (items.map Item.shape).foldl (fun h shape => max h (shape.getD 0)) 0
      if (items.map Item.shape).length ≤ 1 then height else height + 1 := by
  have hfold : items.foldl (fun h item => match item with
      | .flags => h
      | .expr _ height => max h height) 0 =
        (items.map Item.shape).foldl (fun h shape => max h (shape.getD 0)) 0 := by
    rw [List.foldl_map]
    refine congrArg (fun step => items.foldl step 0) (funext₂ fun h item => ?_)
    cases item with
    | flags => exact (Nat.max_zero h).symm
    | expr e height => rfl
  rw [List.length_map, ← hfold]
  rfl

theorem Branch.height_choice_eq (branches : List Branch) :
    (Branch.choice branches).2 =
      let height := (branches.map (·.2)).foldl max 0
      if (branches.map (·.2)).length ≤ 1 then height else height + 1 := by
  rw [Branch.choice, List.foldl_map, List.length_map]

theorem Level.height_ofItems {l l' : Level} (h : l'.shape = l.shape) :
    (Branch.ofItems l'.items).2 = (Branch.ofItems l.items).2 := by
  rw [Branch.height_ofItems_eq, Branch.height_ofItems_eq, (Prod.mk.inj h).2]

theorem Level.height_close {l l' : Level} (h : l'.shape = l.shape) : l'.close.2 = l.close.2 := by
  simp only [close, Branch.height_choice_eq, List.map_cons, height_ofItems h, (Prod.mk.inj h).1]

theorem Level.shape_push {l l' : Level} (h : l'.shape = l.shape) (e e' : Expr) (height : Nat) :
    (l'.push e' height).shape = (l.push e height).shape := by
  obtain ⟨hbranches, hitems⟩ := Prod.mk.inj h
  simp only [push, shape, List.map_cons, hbranches, hitems, Item.shape]

theorem Level.shape_split {l l' : Level} (h : l'.shape = l.shape) :
    l'.split.shape = l.split.shape := by
  simp only [split, shape, List.map_cons, height_ofItems h, (Prod.mk.inj h).1, List.map_nil]

/-! ## Readings that go the same way -/

theorem closeGroup?_cons {r : Reading} {w : Waiting} {outer : List Waiting}
    (h : r.outer = w :: outer) :
    r.closeGroup? = some
      { r with
        flags := w.flags, outer
        level := w.level.push (match w.number with
          | some n => .group n r.level.close.1
          | none => r.level.close.1) (r.level.close.2 + 1) } := by
  obtain ⟨flags, level, outer', groups, names⟩ := r
  cases h
  rfl

/-- The second reading goes the way of the first, above the levels of the base. -/
structure Alike (base : List Waiting) (r s : Reading) : Prop where
  flags : s.flags = r.flags
  level : s.level.shape = r.level.shape
  outer : ∃ inner, s.outer = inner ++ base ∧ inner.map Waiting.shape = r.outer.map Waiting.shape
  names : s.names = r.names

namespace Alike

variable {base : List Waiting} {r s t : Reading}

theorem openGroup (h : Alike base r s) (number number' : Option Nat) {flags flags' : Flags}
    (hflags : flags' = flags) :
    Alike base (r.openGroup number flags) (s.openGroup number' flags') where
  flags := hflags
  level := rfl
  outer := by
    obtain ⟨inner, houter, hshapes⟩ := h.outer
    refine ⟨⟨s.level, number', s.flags⟩ :: inner, congrArg (List.cons _) houter, ?_⟩
    simp only [Reading.openGroup, List.map_cons, hshapes, Waiting.shape, h.level, h.flags]
  names := h.names

theorem push (h : Alike base r s) (e e' : Expr) (height : Nat) :
    Alike base (r.push e height) (s.push e' height) :=
  ⟨h.flags, Level.shape_push h.level e e' height, h.outer, h.names⟩

/-- A group that closes is above the base. -/
theorem closeGroup? (h : Alike base r s) (hr : r.closeGroup? = some t) :
    ∃ t', s.closeGroup? = some t' ∧ Alike base t t' := by
  obtain ⟨inner, houter, hshapes⟩ := h.outer
  cases hw : r.outer with
  | nil =>
    unfold Reading.closeGroup? at hr
    rw [hw] at hr
    cases hr
  | cons w outer =>
    rw [hw] at hshapes
    cases inner with
    | nil => cases hshapes
    | cons w' inner =>
      obtain ⟨hshape, hmore⟩ := List.cons.inj hshapes
      obtain ⟨hlevel, hflags⟩ := Prod.mk.inj hshape
      rw [closeGroup?_cons hw, Option.some.injEq] at hr
      subst hr
      refine ⟨_, closeGroup?_cons houter, hflags, ?_, ⟨inner, rfl, hmore⟩, h.names⟩
      simp only [Level.height_close h.level]
      exact Level.shape_push hlevel _ _ _

theorem repeat? (h : Alike base r s) {least : Nat} {most : Option Nat} {lazy : Bool}
    (hr : r.repeat? least most lazy = some t) :
    ∃ t', s.repeat? least most lazy = some t' ∧ Alike base t t' := by
  obtain ⟨hbranches, hitems⟩ := Prod.mk.inj h.level
  unfold Reading.repeat? at hr ⊢
  split at hr
  · rename_i e height items hr'
    cases hr
    rw [hr'] at hitems
    cases hs : s.level.items with
    | nil =>
      rw [hs] at hitems
      cases hitems
    | cons item items' =>
      rw [hs] at hitems
      cases item with
      | flags => cases hitems
      | expr e' height' =>
        obtain ⟨hheight, hmore⟩ := List.cons.inj hitems
        cases hheight
        refine ⟨_, rfl, h.flags, ?_, h.outer, h.names⟩
        simp only [Level.shape, List.map_cons, hbranches, hmore, Item.shape]
  · cases hr

/-- What can be entered into a reading can be entered into one that goes the same way. -/
theorem enter (h : Alike base r s) {p : Piece} (hr : p.enter r = some t) :
    ∃ t', p.enter s = some t' ∧ Alike base t t' := by
  cases p with
  | numbered =>
    cases hr
    exact ⟨_, rfl, h.openGroup _ _ h.flags⟩
  | named name =>
    rw [Piece.enter] at hr ⊢
    split at hr
    · cases hr
    · rename_i hfresh
      cases hr
      rw [← h.names] at hfresh
      rw [if_neg hfresh]
      have hnamed : Alike base { r with names := name :: r.names }
          { s with names := name :: s.names } :=
        ⟨h.flags, h.level, h.outer, congrArg (name :: ·) h.names⟩
      exact ⟨_, rfl, hnamed.openGroup _ _ h.flags⟩
  | plain flags =>
    cases hr
    exact ⟨_, rfl, h.openGroup _ _ rfl⟩
  | setFlags flags =>
    cases hr
    refine ⟨_, rfl, rfl, ?_, h.outer, h.names⟩
    obtain ⟨hbranches, hitems⟩ := Prod.mk.inj h.level
    simp only [Level.pushFlags, Level.shape, List.map_cons, hbranches, hitems]
  | close => exact h.closeGroup? hr
  | split =>
    cases hr
    exact ⟨_, rfl, h.flags, Level.shape_split h.level, h.outer, h.names⟩
  | expr e height =>
    cases hr
    exact ⟨_, rfl, h.push e e height⟩
  | repetition least most lazy => exact h.repeat? hr

end Alike

/-! ## The same text in front of a parenthesis -/

variable {r s t : Reading} {p : Piece} {cs left : List Char}

theorem readPieces_nil (fuel : Nat) (r : Reading) : readPieces (fuel + 1) r [] = some r := by
  rw [readPieces, Flags.skip_nil]

/-- Reading is at its end, or it enters the next piece and goes on. -/
theorem readPieces_cases {fuel : Nat} (h : readPieces (fuel + 1) r cs = some s) :
    (r.flags.skip cs = [] ∧ r = s) ∨ ∃ c rest p left t, r.flags.skip cs = c :: rest ∧
      nextPiece r.flags (c :: rest) = some (p, left) ∧ p.enter r = some t ∧
        readPieces fuel t left = some s := by
  rw [readPieces] at h
  cases hskip : r.flags.skip cs with
  | nil =>
    rw [hskip] at h
    exact .inl ⟨rfl, Option.some.inj h⟩
  | cons c rest =>
    rw [hskip] at h
    obtain ⟨⟨t, left⟩, hpiece, hrest⟩ := Option.bind_eq_some_iff.mp h
    rw [readPiece_eq] at hpiece
    obtain ⟨⟨p, left'⟩, hnext, henter⟩ := Option.bind_eq_some_iff.mp hpiece
    obtain ⟨t', ht, hpair⟩ := Option.map_eq_some_iff.mp henter
    cases hpair
    exact .inr ⟨c, rest, p, left', t, rfl, hnext, ht, hrest⟩

theorem readPieces_enter {c : Char} {rest tail : List Char} (hskip : r.flags.skip cs = c :: rest)
    (hnext : nextPiece r.flags (c :: rest ++ tail) = some (p, left)) (henter : p.enter r = some t)
    (fuel : Nat) : readPieces (fuel + 1) r (cs ++ tail) = readPieces fuel t left := by
  refine readPieces_step fuel (r.flags.skip_append_cons hskip tail) ?_
  rw [← List.cons_append, readPiece_eq, hnext, Option.bind_some, Reading.enter, henter,
    Option.map_some]

/-- In front of a closing parenthesis, the text takes what goes the way of the first reading to
what goes the way of the second. -/
def RunsInside (fuel : Nat) (r : Reading) (cs : List Char) (s : Reading) : Prop :=
  ∀ base r', Alike base r r' → ∃ s', Alike base s s' ∧ ∃ n < fuel, ∀ more tail,
    readPieces (n + more) r' (cs ++ ')' :: tail) = readPieces more s' (')' :: tail)

/-- The text ends in a comment, which takes in a parenthesis and whatever else is on its line. -/
def RunsOver (fuel : Nat) (r : Reading) (cs : List Char) (s : Reading) : Prop :=
  ∀ base r', Alike base r r' → ∃ s', Alike base s s' ∧ ∃ n < fuel, ∀ more,
    readPieces (n + 1 + more) r' (cs ++ [')', '$']) = some s'

theorem runs_of_skip_nil (hskip : r.flags.skip cs = []) (fuel : Nat) :
    RunsInside (fuel + 1) r cs r ∨ RunsOver (fuel + 1) r cs r := by
  rcases r.flags.skip_kept cs with hkept | ⟨-, htaken⟩
  · refine .inl fun base r' hr => ⟨r', hr, 0, Nat.succ_pos fuel, fun more tail => ?_⟩
    rw [Nat.zero_add]
    cases more with
    | zero => rfl
    | succ more =>
      rw [readPieces, readPieces, hr.flags, hkept, hskip, List.nil_append, Flags.skip_close]
  · refine .inr fun base r' hr => ⟨r', hr, 0, Nat.succ_pos fuel, fun more => ?_⟩
    rw [Nat.zero_add, Nat.add_comm, readPieces, hr.flags, htaken]

section
variable {c : Char} {rest : List Char} (hskip : r.flags.skip cs = c :: rest)
  (henter : p.enter r = some t)
include hskip henter

/-- What goes the way of a reading enters the same piece, if that is what comes next there. -/
theorem Alike.step {base : List Waiting} {r' : Reading} (hr : Alike base r r') :
    ∃ t', Alike base t t' ∧ ∀ tail left',
      nextPiece r.flags (c :: rest ++ tail) = some (p, left') →
        ∀ more, readPieces (more + 1) r' (cs ++ tail) = readPieces more t' left' := by
  obtain ⟨t', henter', halike⟩ := hr.enter henter
  rw [← hr.flags] at hskip ⊢
  exact ⟨t', halike, fun tail left' hnext => readPieces_enter hskip hnext henter'⟩

theorem RunsInside.step {fuel : Nat} (h : RunsInside fuel t left s)
    (hnext : ∀ tail,
      nextPiece r.flags (c :: rest ++ ')' :: tail) = some (p, left ++ ')' :: tail)) :
    RunsInside (fuel + 1) r cs s := by
  intro base r' hr
  obtain ⟨t', halike, hpieces⟩ := hr.step hskip henter
  obtain ⟨s', hs, n, hn, hread⟩ := h base t' halike
  refine ⟨s', hs, n + 1, Nat.succ_lt_succ hn, fun more tail => ?_⟩
  rw [Nat.add_right_comm, hpieces _ _ (hnext tail), hread]

theorem RunsOver.step {fuel : Nat} (h : RunsOver fuel t left s)
    (hnext : nextPiece r.flags (c :: rest ++ [')', '$']) = some (p, left ++ [')', '$'])) :
    RunsOver (fuel + 1) r cs s := by
  intro base r' hr
  obtain ⟨t', halike, hpieces⟩ := hr.step hskip henter
  obtain ⟨s', hs, n, hn, hread⟩ := h base t' halike
  refine ⟨s', hs, n + 1, Nat.succ_lt_succ hn, fun more => ?_⟩
  rw [Nat.add_right_comm (n + 1), hpieces _ _ hnext, hread]

theorem RunsOver.last (hnext : nextPiece r.flags (c :: rest ++ [')', '$']) = some (p, []))
    (fuel : Nat) : RunsOver (fuel + 2) r cs t := by
  intro base r' hr
  obtain ⟨t', halike, hpieces⟩ := hr.step hskip henter
  refine ⟨t', halike, 1, Nat.succ_lt_succ (Nat.succ_pos fuel), fun more => ?_⟩
  rw [Nat.add_right_comm, hpieces _ _ hnext, Nat.add_comm, readPieces_nil]

end

/-- Whatever a text is read to alone, it is read to in front of a closing parenthesis, unless a
comment at its end takes the parenthesis in. -/
theorem readPieces_alike {fuel : Nat} (h : readPieces fuel r cs = some s) :
    RunsInside fuel r cs s ∨ RunsOver fuel r cs s := by
  induction fuel generalizing r cs with
  | zero => cases h
  | succ fuel ih =>
    rcases readPieces_cases h with ⟨hskip, rfl⟩ | ⟨c, rest, p, left, t, hskip, hnext, henter, hrest⟩
    · exact runs_of_skip_nil hskip fuel
    · rcases keeps_nextPiece r.flags hnext with hkept | ⟨rfl, htaken⟩
      · exact (ih hrest).imp (fun hinside => hinside.step hskip henter hkept)
          fun hover => hover.step hskip henter (hkept ['$'])
      · -- The comment belongs to the last piece, so nothing is read behind that alone either.
        cases fuel with
        | zero => cases hrest
        | succ fuel =>
          rw [readPieces_nil, Option.some.injEq] at hrest
          subst hrest
          exact .inr (RunsOver.last hskip henter htaken fuel)

/-! ## Patterns that stand alone -/

/-- The pattern has a reading of its own, in which every group is closed and none has a name. -/
def StandsAlone (cs : List Char) : Prop :=
  (readPieces (cs.length + 1) {} cs).any fun r => r.outer.isEmpty && r.names.isEmpty

instance (cs : List Char) : Decidable (StandsAlone cs) := inferInstanceAs (Decidable (_ = true))

theorem standsAlone_iff : StandsAlone cs ↔
    ∃ r, readPieces (cs.length + 1) {} cs = some r ∧ r.outer = [] ∧ r.names = [] := by
  simp [StandsAlone, Option.any_eq_true]

/-- A pattern that begins with a question mark has nothing to repeat. -/
theorem head?_ne_of_readPieces {fuel : Nat} (h : readPieces (fuel + 1) {} cs = some s) :
    cs.head? ≠ some '?' := by
  intro hhead
  obtain ⟨more, rfl⟩ : ∃ more, cs = '?' :: more := by
    cases cs with
    | nil => cases hhead
    | cons c more => exact ⟨more, by rw [Option.some.inj hhead]⟩
  rcases readPieces_cases h with ⟨hskip, -⟩ | ⟨c, rest, p, left, t, hskip, hnext, henter, -⟩
  · cases hskip
  · cases hskip
    cases hnext
    cases henter

/-- The levels around a group that has been opened on a flat reading. -/
def Reading.beneath (es : List (Expr × Nat)) (groups : Nat) : List Waiting :=
  [⟨(flat es groups).level, some (groups + 1), {}⟩]

theorem alike_opened (es : List (Expr × Nat)) (groups : Nat) :
    Alike (Reading.beneath es groups) {}
      ((flat es groups).openGroup (some (groups + 1)) (flat es groups).flags) :=
  ⟨rfl, rfl, ⟨[], rfl, rfl⟩, rfl⟩

/-- Where nothing is open alone, the group around it closes, one higher than it is alone. -/
theorem Alike.close_opened {es : List (Expr × Nat)} {groups : Nat}
    (h : Alike (Reading.beneath es groups) r s) (houter : r.outer = []) (hnames : r.names = []) :
    ∃ e, s.closeGroup? = some (flat (es ++ [(e, r.level.close.2 + 1)]) s.groups) := by
  obtain ⟨inner, hs, hshapes⟩ := h.outer
  rw [houter, List.map_nil, List.map_eq_nil_iff] at hshapes
  rw [hshapes, List.nil_append] at hs
  refine ⟨.group (groups + 1) s.level.close.1, ?_⟩
  rw [closeGroup?_cons hs, ← Reading.push_flat, Level.height_close h.level, h.names, hnames]
  rfl

/-- A pattern that no comment ends becomes one group wherever it is put between parentheses. -/
theorem reads_group (hs : readPieces (cs.length + 1) {} cs = some s) (houter : s.outer = [])
    (hnames : s.names = []) (hinside : RunsInside (cs.length + 1) {} cs s)
    (es : List (Expr × Nat)) (groups : Nat) : ∃ e groups',
      Reads (flat es groups) ('(' :: cs ++ [')'])
        (flat (es ++ [(e, s.level.close.2 + 1)]) groups') := by
  obtain ⟨s', halike, n, hn, hread⟩ := hinside _ _ (alike_opened es groups)
  obtain ⟨e, hclose⟩ := halike.close_opened houter hnames
  have hreads : ReadsInside _ cs s' := ⟨n, Nat.lt_succ_iff.mp hn, hread⟩
  exact ⟨e, _, hreads.group rfl (head?_ne_of_readPieces hs) hclose⟩

/-- A group whose closing parenthesis is part of a comment stays open. -/
theorem read?_eq_none_of_runsOver (hs : readPieces (cs.length + 1) {} cs = some s)
    (hover : RunsOver (cs.length + 1) {} cs s) :
    read? ("^/(".toList ++ cs ++ ")$".toList) = none := by
  let es : List (Expr × Nat) := [(.look .textStart, 0), (.literal '/', 0)]
  have hstart : Reads (flat [] 0) ['^'] (flat [(.look .textStart, 0)] 0) :=
    Reads.piece rfl fun tail => rfl
  have hbefore : Reads (flat [] 0) ['^', '/'] (flat es 0) :=
    hstart.append (reads_literal _ 0 (by decide))
  obtain ⟨m, hm, hbefore⟩ := hbefore
  obtain ⟨s', halike, n, hn, hread⟩ := hover _ _ (alike_opened es 0)
  have hhead : (cs ++ [')', '$']).head? ≠ some '?' := by
    have hcs := head?_ne_of_readPieces hs
    cases cs with
    | nil => decide
    | cons c cs => exact hcs
  have hpieces : readPieces (cs.length + 6) {} ("^/(".toList ++ cs ++ ")$".toList) = some s' := by
    have hfuel : cs.length + 6 = m + (n + 1 + (cs.length + 4 - m - n) + 1) := by
      simp only [List.length_cons, List.length_nil] at hm
      omega
    have hwhole : "^/(".toList ++ cs ++ ")$".toList = ['^', '/'] ++ '(' :: (cs ++ [')', '$']) := by
      simp
    have hspaced : (flat es 0).flags.spaced = false := rfl
    rw [hwhole, hfuel]
    exact (hbefore _ _).trans ((readPieces_open hspaced hhead _).trans (hread _))
  obtain ⟨inner, houter, -⟩ := halike.outer
  have hopen : s'.outer ≠ [] := by simp [houter, Reading.beneath]
  have hlength : ("^/(".toList ++ cs ++ ")$".toList).length + 1 = cs.length + 6 := by simp
  rw [read?, hlength, hpieces]
  simp [hopen]

end RoutePlan.Regex

namespace RoutePlan.Pattern

open Regex Regex.Reading

/-- A pattern that stands alone, and that is a pattern between the parentheses of one segment,
is one expression in every pattern. -/
theorem embeds_of_standsAlone {constraint : List Char} (h : StandsAlone constraint)
    (haccepted : (read? ("^/(".toList ++ constraint ++ ")$".toList)).isSome) :
    Embeds (fun _ => True) constraint := by
  obtain ⟨s, hs, houter, hnames⟩ := standsAlone_iff.mp h
  rcases readPieces_alike hs with hinside | hover
  · have hgroup := reads_group hs houter hnames hinside
    obtain ⟨e, groups', hreads⟩ := hgroup [(.look .textStart, 0), (.literal '/', 0)] 0
    have hwhole := read?_eq_of_reads (reads_anchors _
      ((reads_slash [(.look .textStart, 0)] 0).append hreads))
    rw [show '^' :: (['/'] ++ ('(' :: constraint ++ [')'])) ++ ['$'] =
      "^/(".toList ++ constraint ++ ")$".toList by simp] at hwhole
    have hheight : s.level.close.2 + 1 < nestLimit := by
      rw [hwhole] at haccepted
      split at haccepted
      · rename_i hle
        have hsum : s.level.close.2 + 1 + 1 ≤ nestLimit := by
          simpa [Branch.height_ofItems_eq, flat, Item.shape] using hle
        omega
      · cases haccepted
    intro es groups
    obtain ⟨e, groups', hreads⟩ := hgroup es groups
    exact ⟨e, _, groups', trivial, hheight, hreads⟩
  · rw [read?_eq_none_of_runsOver hs hover] at haccepted
    cases haccepted

end RoutePlan.Pattern
