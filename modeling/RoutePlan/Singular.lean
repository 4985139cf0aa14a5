/-! # Singular names

A nested resource addresses its parent through the parent's singular name. The rules cover
the regular English endings; a name that ends in `ss`, `us`, `is` or `ws` is taken as
singular already.
-/

namespace RoutePlan

def isVowel (c : Char) : Bool := "aeiou".toList.contains c

/-- Whether a stem before `ches` loses `es`, as in `branches` and `coaches`; else it loses
only `s`, as in `caches`. The stem is given last letter first. -/
def dropsEs : List Char → Bool
  | 'a' :: 'o' :: _ => true
  | 'a' :: 'e' :: _ => true
  | c :: _ => !isVowel c
  | [] => false

/-- The rules by ending, on a name given last letter first. -/
def singularReversed : List Char → List Char
  | 's' :: 'e' :: 'i' :: c :: stem => 'y' :: c :: stem
  | 's' :: 'e' :: 's' :: 's' :: stem => 's' :: 's' :: stem
  | 's' :: 'e' :: 'h' :: 's' :: stem => 'h' :: 's' :: stem
  | 's' :: 'e' :: 'x' :: stem => 'x' :: stem
  | 's' :: 'e' :: 'z' :: stem => 'z' :: stem
  | 's' :: 'e' :: 'h' :: 'c' :: c :: stem =>
    if dropsEs (c :: stem) then 'h' :: 'c' :: c :: stem else 'e' :: 'h' :: 'c' :: c :: stem
  | 's' :: 's' :: stem => 's' :: 's' :: stem
  | 's' :: 'u' :: stem => 's' :: 'u' :: stem
  | 's' :: 'i' :: stem => 's' :: 'i' :: stem
  | 's' :: 'w' :: stem => 's' :: 'w' :: stem
  | 's' :: c :: stem => c :: stem
  | name => name

def singular (name : String) : String :=
  String.ofList (singularReversed name.toList.reverse).reverse

end RoutePlan
