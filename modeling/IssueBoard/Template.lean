import IssueBoard.Failure

/-!
# Templates

A template is literal text with expressions between double braces. The leftmost opening braces start
an expression and the first closing braces end it; inside, a backslash before a closing brace keeps
that brace from closing anything and is dropped. Scanning takes a template apart into segments, and
writing puts segments together again.
-/

namespace IssueBoard

/-- A piece of a template: a literal or the source of an expression, and where it starts. -/
structure Segment where
  text : String
  isExpression : Bool
  position : Nat
  deriving DecidableEq

namespace Template

/-- The characters before the first opening braces, and the rest from those braces on. -/
def literalRun : List Char → List Char × List Char
  | [] => ([], [])
  | '{' :: '{' :: rest => ([], '{' :: '{' :: rest)
  | c :: rest => (c :: (literalRun rest).1, (literalRun rest).2)

/-- The source of an expression whose opening braces have been read, and what follows its closing
braces; `none` when they are missing. -/
def body? : List Char → Option (List Char × List Char)
  | [] => none
  | '\\' :: '}' :: rest => (body? rest).map fun (source, after) => ('}' :: source, after)
  | '}' :: '}' :: rest => some ([], rest)
  | c :: rest => (body? rest).map fun (source, after) => (c :: source, after)

theorem length_literalRun (cs : List Char) :
    (literalRun cs).1.length + (literalRun cs).2.length = cs.length := by
  fun_induction literalRun cs with
  | case1 => rfl
  | case2 rest => simp
  | case3 c rest _ ih => simp only [List.length_cons]; omega

theorem length_body {cs source rest : List Char} (h : body? cs = some (source, rest)) :
    rest.length < cs.length := by
  fun_induction body? cs generalizing source with
  | case1 => simp at h
  | case2 tail ih =>
    obtain ⟨⟨inner, after⟩, found, same⟩ := Option.map_eq_some_iff.1 h
    simp only [Prod.mk.injEq] at same
    have := ih (same.2 ▸ found)
    simp only [List.length_cons]
    omega
  | case3 tail =>
    simp only [Option.some.injEq, Prod.mk.injEq] at h
    simp only [← h.2, List.length_cons]
    omega
  | case4 c tail _ _ ih =>
    obtain ⟨⟨inner, after⟩, found, same⟩ := Option.map_eq_some_iff.1 h
    simp only [Prod.mk.injEq] at same
    have := ih (same.2 ▸ found)
    simp only [List.length_cons]
    omega

/-- The segments of the characters that start at a position, or the position of the opening braces
that are never closed. -/
def segments (position : Nat) (cs : List Char) : Except Nat (List Segment) :=
  match run : literalRun cs with
  | (_, []) =>
    .ok (if cs.isEmpty then [] else [⟨String.ofList cs, false, position⟩])
  | (literal, c :: opened) =>
    let start := position + literal.length
    let before := if literal.isEmpty then [] else [⟨String.ofList literal, false, position⟩]
    match found : body? (opened.drop 1) with
    | none => .error start
    | some (source, rest) =>
      have : rest.length < cs.length := by
        have := length_body found
        have := length_literalRun cs
        simp only [run, List.length_cons, List.length_drop] at *
        omega
      (segments (start + 2 + (opened.length - 1 - rest.length)) rest).map fun after =>
        before ++ ⟨String.ofList source, true, start⟩ :: after
termination_by cs.length

/-- Takes a template apart. -/
def scan (source : String) : Except GrammarError (List Segment) :=
  (segments 0 source.toList).mapError fun position =>
    { cause := .unterminatedExpression, position := some position, source }

/-- The source of an expression as it is written, with a backslash before every closing brace. -/
def escape (source : List Char) : List Char :=
  source.flatMap fun c => if c == '}' then ['\\', '}'] else [c]

@[simp] theorem escape_nil : escape [] = [] := rfl

@[simp] theorem escape_cons (c : Char) (source : List Char) :
    escape (c :: source) = (if c = '}' then ['\\', '}'] else [c]) ++ escape source := by
  simp [escape]

/-- An expression is read back as it is written, unless its last character is a backslash, which
would keep the closing braces from closing it. -/
theorem body?_escape {source : List Char} (rest : List Char)
    (ending : source.getLast? ≠ some '\\') :
    body? (escape source ++ '}' :: '}' :: rest) = some (source, rest) := by
  induction source with
  | nil => rfl
  | cons c source ih =>
    cases source with
    | nil =>
      by_cases brace : c = '}'
      · subst brace; rfl
      · have other : c ≠ '\\' := by simpa using ending
        simp [brace, body?, other]
    | cons d source =>
      have read := ih (by simpa using ending)
      by_cases brace : c = '}'
      · rw [escape_cons, if_pos brace, brace]
        simp only [List.cons_append, List.nil_append, body?, read, Option.map_some]
      · rw [escape_cons, if_neg brace]
        by_cases next : d = '}' <;> simp_all [body?]

/-- A segment as it is written. -/
def written (part : Segment) : List Char :=
  if part.isExpression then ['{', '{'] ++ escape part.text.toList ++ ['}', '}']
  else part.text.toList

/-- Puts segments together to a template. -/
def write (segments : List Segment) : String :=
  String.ofList (segments.flatMap written)

/-- Whether a text holds opening braces. -/
def hasOpening : List Char → Bool
  | '{' :: '{' :: _ => true
  | _ :: rest => hasOpening rest
  | [] => false

/-- Whether a text holds at least one opener of an expression. -/
def hasExpressions (source : String) : Bool := hasOpening source.toList

end Template

end IssueBoard
