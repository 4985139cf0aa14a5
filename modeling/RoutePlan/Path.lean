/-! # Paths

A path is grown from a namespace chain, a scope's prefix and a local part. Joining puts
exactly one slash between the two sides, whatever slashes they bring.
-/

namespace RoutePlan.Path

/-- Empty for the empty chain, else every segment after a slash. -/
def ofChain : List String → String
  | [] => ""
  | s :: rest => "/" ++ s ++ ofChain rest

def trimEndSlashes (s : List Char) : List Char := (s.reverse.dropWhile (· == '/')).reverse

def trimStartSlashes (s : List Char) : List Char := s.dropWhile (· == '/')

/-- Where both sides are only slashes the result is the root path. -/
def joinChars (base path : List Char) : List Char :=
  match trimEndSlashes base, trimStartSlashes path with
  | [], [] => ['/']
  | head, [] => head
  | head, tail => head ++ '/' :: tail

def join (base path : String) : String := String.ofList (joinChars base.toList path.toList)

end RoutePlan.Path
