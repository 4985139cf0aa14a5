import RoutePlan.Json.Layout

/-! # JSON strings

The text of a string between its quotes. Escapes of the form `\uXXXX` are UTF-16 units, and
a character beyond the first plane takes two of them. A string may also be skipped without
its units being paired.
-/

namespace RoutePlan.Json

def hexDigit? (c : Char) : Option Nat :=
  if '0' ≤ c ∧ c ≤ '9' then some (c.toNat - 48)
  else if 'a' ≤ c ∧ c ≤ 'f' then some (c.toNat - 87)
  else if 'A' ≤ c ∧ c ≤ 'F' then some (c.toNat - 55)
  else none

/-- The unit of four hexadecimal digits. The text has ended only where fewer than four bytes
are left; other characters in the place of digits are malformed. -/
def readUnit (s : List Char) : Except ReadFault (Nat × List Char) :=
  match s with
  | a :: b :: c :: d :: rest =>
    match hexDigit? a, hexDigit? b, hexDigit? c, hexDigit? d with
    | some a, some b, some c, some d => .ok (((a * 16 + b) * 16 + c) * 16 + d, rest)
    | _, _, _, _ => .error .malformed
  | short => if (String.ofList short).utf8ByteSize < 4 then .error .ended else .error .malformed

/-- The character that a letter after a backslash stands for. -/
def simpleEscape? (c : Char) : Option Char :=
  match c with
  | '"' => some '"'
  | '\\' => some '\\'
  | '/' => some '/'
  | 'b' => some '\x08'
  | 'f' => some '\x0c'
  | 'n' => some '\n'
  | 'r' => some '\r'
  | 't' => some '\t'
  | _ => none

def isLeadUnit (n : Nat) : Bool := 0xd800 ≤ n && n ≤ 0xdbff

def isTrailUnit (n : Nat) : Bool := 0xdc00 ≤ n && n ≤ 0xdfff

def pairUnits (lead trail : Nat) : Char :=
  Char.ofNat ((lead - 0xd800) * 0x400 + (trail - 0xdc00) + 0x10000)

/-- The second unit of a pair, with its own backslash. -/
def readTrail (lead : Nat) (s : List Char) : Except ReadFault (Char × List Char) :=
  match s with
  | [] => .error .ended
  | '\\' :: [] => .error .ended
  | '\\' :: 'u' :: rest => do
    let (trail, rest) ← readUnit rest
    if isTrailUnit trail then .ok (pairUnits lead trail, rest) else .error .malformed
  | _ => .error .malformed

/-- The character of an escape, after its backslash. -/
def readEscape (s : List Char) : Except ReadFault (Char × List Char) :=
  match s with
  | [] => .error .ended
  | 'u' :: rest => do
    let (unit, rest) ← readUnit rest
    if isTrailUnit unit then .error .malformed
    else if isLeadUnit unit then readTrail unit rest
    else .ok (Char.ofNat unit, rest)
  | c :: rest =>
    match simpleEscape? c with
    | some d => .ok (d, rest)
    | none => .error .malformed

/-- An escape whose unit need not be part of a pair. -/
def skipEscape (s : List Char) : Except ReadFault (Unit × List Char) :=
  match s with
  | [] => .error .ended
  | 'u' :: rest => do
    let (_, rest) ← readUnit rest
    .ok ((), rest)
  | c :: rest => if (simpleEscape? c).isSome then .ok ((), rest) else .error .malformed

theorem length_readUnit {s rest : List Char} {n : Nat} (h : readUnit s = .ok (n, rest)) :
    rest.length < s.length := by
  unfold readUnit at h
  split at h
  · split at h
    · cases h
      simp only [List.length_cons]
      omega
    · cases h
  · split at h <;> cases h

theorem length_readTrail {lead : Nat} {s rest : List Char} {c : Char}
    (h : readTrail lead s = .ok (c, rest)) : rest.length < s.length := by
  unfold readTrail at h
  split at h
  · cases h
  · cases h
  · rename_i after
    cases hu : readUnit after with
    | error e => simp [hu, bind, Except.bind] at h
    | ok p =>
      obtain ⟨n, tail⟩ := p
      have hlt := length_readUnit hu
      simp only [hu, bind, Except.bind] at h
      split at h
      · simp only [Except.ok.injEq, Prod.mk.injEq] at h
        obtain ⟨-, rfl⟩ := h
        simp only [List.length_cons]
        omega
      · cases h
  · cases h

theorem length_readEscape {s rest : List Char} {c : Char} (h : readEscape s = .ok (c, rest)) :
    rest.length < s.length := by
  unfold readEscape at h
  split at h
  · cases h
  · rename_i after
    cases hu : readUnit after with
    | error e => simp [hu, bind, Except.bind] at h
    | ok p =>
      obtain ⟨n, tail⟩ := p
      have hlt := length_readUnit hu
      simp only [hu, bind, Except.bind] at h
      split at h
      · cases h
      · split at h
        · have := length_readTrail h
          simp only [List.length_cons]
          omega
        · simp only [Except.ok.injEq, Prod.mk.injEq] at h
          obtain ⟨-, rfl⟩ := h
          simp only [List.length_cons]
          omega
  · split at h
    · cases h
      simp
    · cases h

theorem length_skipEscape {s rest : List Char} {u : Unit} (h : skipEscape s = .ok (u, rest)) :
    rest.length < s.length := by
  unfold skipEscape at h
  split at h
  · cases h
  · rename_i after
    cases hu : readUnit after with
    | error e => simp [hu, bind, Except.bind] at h
    | ok p =>
      obtain ⟨n, tail⟩ := p
      have hlt := length_readUnit hu
      simp only [hu, bind, Except.bind] at h
      cases h
      simp only [List.length_cons]
      omega
  · split at h
    · cases h
      simp
    · cases h

/-- Characters that a string holds only in escaped form. -/
def isControl (c : Char) : Bool := c.toNat < 0x20

/-- A string's characters, after the opening quote. -/
def readChars (s : List Char) : Except ReadFault (List Char × List Char) :=
  match s with
  | [] => .error .ended
  | '"' :: rest => .ok ([], rest)
  | '\\' :: rest =>
    match h : readEscape rest with
    | .error e => .error e
    | .ok (c, after) =>
      have := length_readEscape h
      do
        let (cs, rest) ← readChars after
        .ok (c :: cs, rest)
  | c :: rest =>
    if isControl c then .error .malformed
    else do
      let (cs, rest) ← readChars rest
      .ok (c :: cs, rest)
termination_by s.length
decreasing_by all_goals simp_all <;> omega

/-- The same, for a string that nobody asked for. -/
def skipChars (s : List Char) : Except ReadFault (Unit × List Char) :=
  match s with
  | [] => .error .ended
  | '"' :: rest => .ok ((), rest)
  | '\\' :: rest =>
    match h : skipEscape rest with
    | .error e => .error e
    | .ok (_, after) =>
      have := length_skipEscape h
      skipChars after
  | c :: rest => if isControl c then .error .malformed else skipChars rest
termination_by s.length
decreasing_by all_goals simp_all <;> omega

end RoutePlan.Json
