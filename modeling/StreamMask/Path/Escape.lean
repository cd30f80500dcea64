/-
Field names inside paths: `/` separates names, so a name writes it as `~1`, and
writes `~` as `~0`. Main statement: `unescape_escape`, reading undoes writing.
-/
namespace StreamMask.Path

def escapeChars : List Char → List Char
  | [] => []
  | '~' :: rest => '~' :: '0' :: escapeChars rest
  | '/' :: rest => '~' :: '1' :: escapeChars rest
  | c :: rest => c :: escapeChars rest

/-- Resolve escapes; a `~` that begins none stands for itself. -/
def unescapeChars : List Char → List Char
  | [] => []
  | '~' :: '1' :: rest => '/' :: unescapeChars rest
  | '~' :: '0' :: rest => '~' :: unescapeChars rest
  | c :: rest => c :: unescapeChars rest

/-- Whether every `~` begins an escape. -/
def wellEscaped : List Char → Bool
  | [] => true
  | '~' :: '0' :: rest => wellEscaped rest
  | '~' :: '1' :: rest => wellEscaped rest
  | '~' :: _ => false
  | _ :: rest => wellEscaped rest

/-- A field name as it is written in a path. -/
def escape (name : String) : String := String.ofList (escapeChars name.toList)

/-- The field name that a token of a path writes. -/
def unescape (token : String) : String := String.ofList (unescapeChars token.toList)

theorem unescapeChars_escapeChars (name : List Char) :
    unescapeChars (escapeChars name) = name := by
  fun_induction escapeChars name with
  | case1 => rfl
  | case2 rest ih => simp [unescapeChars, ih]
  | case3 rest ih => simp [unescapeChars, ih]
  | case4 c rest h1 h2 ih =>
    rw [unescapeChars, ih]
    · intro r hc; exact absurd hc h1
    · intro r hc; exact absurd hc h1

theorem unescape_escape (name : String) : unescape (escape name) = name := by
  simp [unescape, escape, unescapeChars_escapeChars]

end StreamMask.Path
