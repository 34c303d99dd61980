import ConfigSchema.Pattern.Automaton
import ConfigSchema.Pattern.Read.Brackets

/-!
# Reading patterns

A pattern is read into a regular expression. Options hold from where they are switched to the end of
the group that they stand in, in later alternatives too.

## Main definitions

- `Node` — a part of a pattern that has been read
- `readBranches?` — reads alternatives up to the end of their group
- `Regex.ofText?` — the expression of a pattern, unless it is malformed, nested too deeply or too
  large
- `Pattern` — a pattern that a text has to match from its first character
-/

namespace ConfigSchema.Pattern

open ConfigSchema.Text (CharRanges)

/-- A part of a pattern. -/
structure Node where
  regex : Regex
  /-- How deep the parts are nested. -/
  depth : Nat := 0
  /-- Whether the part can be repeated; nothing and a switch of options cannot. -/
  repeatable : Bool := true

namespace Node

/-- A part that matches nothing but the empty text. -/
def nothing : Node := { regex := .empty, repeatable := false }

/-- The greatest depth of some parts. -/
def depthOf (nodes : List Node) : Nat := nodes.foldl (fun depth node => max depth node.depth) 0

/-- Parts that follow each other. -/
def sequence : List Node → Node
  | [] => nothing
  | [one] => one
  | several => { regex := .sequence (several.map (·.regex)), depth := depthOf several + 1 }

/-- Parts of which one has to match. -/
def choice : List Node → Node
  | [] => nothing
  | [one] => one
  | several => { regex := .choice (several.map (·.regex)), depth := depthOf several + 1 }

/-- A part in parentheses, whose match is noted or not. -/
def group (noted : Bool) (inner : Node) : Node :=
  { regex := if noted then .group inner.regex else inner.regex, depth := inner.depth + 1 }

/-- A part that is repeated. -/
def repeated (least : Nat) (most? : Option Nat) (greedy : Bool) (body : Node) : Node :=
  { regex := .repeated least most? greedy body.regex, depth := body.depth + 1 }

end Node

/-- What holds where a pattern is read on: the options, and the names of groups so far. -/
structure Context where
  options : Options := {}
  names : List (List Char) := []

/-- What remains of a pattern, and what holds there. -/
abbrev Rest := Context × List Char

/-- The expression of a character that stands for itself. -/
def literal? (opts : Options) (c : Char) (byte : Bool) : Option Regex :=
  if !opts.unicode && byte && 0x80 ≤ c.toNat then none
  else
    let fold := opts.ignoreCase && (opts.unicode || c.toNat < 0x80)
    some (if fold then .ofSet (CharClass.caseless opts.unicode (.single c.toNat)) else .literal [c])

/-- The class of a dot. Without characters of all scripts it would match bytes, which are no
text. -/
def dot? (opts : Options) : Option CharRanges :=
  if !opts.unicode then none
  else if opts.dotAll then some (CharRanges.compl [])
  else if opts.crlf then some (CharRanges.compl [(0x0A, 0x0A), (0x0D, 0x0D)])
  else some (CharRanges.compl [(0x0A, 0x0A)])

/-- The condition of `^`. -/
def startLook (opts : Options) : Look :=
  if opts.multiline then .lineStart opts.crlf else .textStart

/-- The condition of `$`. -/
def endLook (opts : Options) : Look := if opts.multiline then .lineEnd opts.crlf else .textEnd

/-! ## Repetition -/

/-- Reads digits, between which there may be space. Each takes one unit of `fuel`. -/
def readDigits (opts : Options) : (fuel : Nat) → (digits : List Char) → List Char →
    List Char × List Char
  | fuel + 1, digits, c :: cs =>
      if c.isDigit then readDigits opts fuel (c :: digits) (opts.skip cs)
      else (digits.reverse, c :: cs)
  | _, digits, cs => (digits.reverse, cs)

/-- The characters after white space. -/
def dropBlanks (cs : List Char) : List Char := cs.dropWhile Text.isWhite

/-- Reads a count of 32 bits, with white space on both sides. -/
def readCount? (opts : Options) (cs : List Char) : Option (Nat × List Char) := do
  let (digits, rest) := readDigits opts (cs.length + 1) [] (dropBlanks cs)
  let count ← readNat? 10 digits
  guard (count < UInt32.size)
  let rest := if rest.head?.any Text.isWhite then opts.skip (dropBlanks rest) else rest
  return (count, rest)

/-- Reads the counts of a repetition after its opening brace. -/
def readCounts? (opts : Options) (cs : List Char) : Option (Nat × Option Nat × List Char) := do
  let (least, rest) ← readCount? opts (opts.skip cs)
  match rest with
  | '\x7d' :: rest => return (least, some least, rest)
  | ',' :: rest =>
      match opts.skip rest with
      | '\x7d' :: rest => return (least, none, rest)
      | rest =>
          let (most, rest) ← readCount? opts rest
          let '\x7d' :: rest := rest | none
          guard (least ≤ most)
          return (least, some most, rest)
  | _ => none

/-- Whether a repetition is tried more often first, and the characters after the question mark that
turns this round. -/
def readGreed (opts : Options) : List Char → Bool × List Char
  | '?' :: cs => (opts.lazy, cs)
  | cs => (!opts.lazy, cs)

/-- Repeats the last of the parts. -/
def repeatLast? (least : Nat) (most? : Option Nat) (greedy : Bool) :
    List Node → Option (List Node)
  | [] => none
  | body :: before =>
      if body.repeatable then some (body.repeated least most? greedy :: before) else none

/-! ## Groups -/

/-- The characters that a group's name may begin with. -/
def startsName (c : Char) : Bool := c == '_' || Text.isAlphabetic c.toNat

/-- The characters that a group's name may hold. -/
def continuesName (c : Char) : Bool :=
  startsName c || c == '.' || c == '[' || c == ']' || Text.isNumeral c.toNat

/-- Reads the name of a group up to the angle after it. -/
def readName? (ctx : Context) (cs : List Char) : Option Rest := do
  let (name, rest) := cs.span (· != '>')
  let '>' :: rest := rest | none
  guard (name.head?.any startsName && name.all continuesName && !ctx.names.contains name)
  return ({ ctx with names := name :: ctx.names }, rest)

/-- What the opening of a group says. -/
inductive Opening where
  /-- What follows belongs to the group, whose match is noted or not. -/
  | group (noted : Bool) (inner : Context)
  /-- The group is a switch of options for what follows it. -/
  | switch (after : Context)

/-- Reads the opening of a group after its parenthesis. -/
def readOpening? (ctx : Context) (cs : List Char) : Option (Opening × List Char) := do
  match ctx.options.skip cs with
  | '?' :: '=' :: _ => none
  | '?' :: '!' :: _ => none
  | '?' :: '<' :: '=' :: _ => none
  | '?' :: '<' :: '!' :: _ => none
  | '?' :: 'P' :: '<' :: cs =>
      let (inner, cs) ← readName? ctx cs
      return (.group true inner, cs)
  | '?' :: '<' :: cs =>
      let (inner, cs) ← readName? ctx cs
      return (.group true inner, cs)
  | '?' :: cs =>
      let (options, letters, cs) ← readFlags? ctx.options [] cs
      let inner := { ctx with options }
      match cs with
      | ':' :: cs => return (.group false inner, cs)
      | ')' :: cs => if letters.isEmpty then none else return (.switch inner, cs)
      | _ => none
  | cs => return (.group true ctx, cs)

/-! ## Sequences -/

/-- Reads a part that is neither a group nor repeated. -/
def readAtom? (opts : Options) : List Char → Option (Node × List Char)
  | [] => none
  | '[' :: cs => do
      let (member, cs) ← readBrackets? opts cs
      return ({ regex := .ofSet member.set, depth := member.depth }, cs)
  | '\\' :: cs => do
      match ← readEscape? opts cs with
      | (.char c byte, cs) => return ({ regex := ← literal? opts c byte }, cs)
      | (.set set, cs) => return ({ regex := .ofSet set }, cs)
      | (.look condition, cs) => return ({ regex := .look condition }, cs)
  | '.' :: cs => do return ({ regex := .chars (← dot? opts) }, cs)
  | '^' :: cs => some ({ regex := .look (startLook opts) }, cs)
  | '$' :: cs => some ({ regex := .look (endLook opts) }, cs)
  | c :: cs => do return ({ regex := ← literal? opts c false }, cs)

mutual

/-- Reads alternatives up to the end of their group. Each call uses one unit of `fuel`. -/
def readBranches? : (fuel : Nat) → Context → List Char → Option (List Node × Rest)
  | 0, _, _ => none
  | fuel + 1, ctx, cs => do
      let (first, ctx, cs) ← readSequence? fuel ctx [] cs
      match cs with
      | '|' :: cs =>
          let (others, rest) ← readBranches? fuel ctx cs
          return (first :: others, rest)
      | cs => return ([first], ctx, cs)
termination_by structural fuel => fuel

/-- Reads parts up to the end of an alternative; `parts` are those so far, the last first. -/
def readSequence? : (fuel : Nat) → Context → (parts : List Node) → List Char →
    Option (Node × Rest)
  | 0, _, _, _ => none
  | fuel + 1, ctx, parts, cs =>
      let opts := ctx.options
      let repeated (least : Nat) (most? : Option Nat) (cs : List Char) := do
        let (greedy, cs) := readGreed opts cs
        readSequence? fuel ctx (← repeatLast? least most? greedy parts) cs
      let ended (cs : List Char) := some (Node.sequence parts.reverse, ctx, cs)
      match opts.skip cs with
      | [] => ended []
      | '|' :: cs => ended ('|' :: cs)
      | ')' :: cs => ended (')' :: cs)
      | '?' :: cs => repeated 0 (some 1) cs
      | '*' :: cs => repeated 0 none cs
      | '+' :: cs => repeated 1 none cs
      | '\x7b' :: cs => do
          let (least, most?, cs) ← readCounts? opts cs
          repeated least most? (opts.skip cs)
      | '(' :: cs => do
          match ← readOpening? ctx cs with
          | (.switch after, cs) => readSequence? fuel after (Node.nothing :: parts) cs
          | (.group noted inner, cs) =>
              let (branches, after, cs) ← readBranches? fuel inner cs
              let ')' :: cs := cs | none
              readSequence? fuel { after with options := opts }
                ((Node.choice branches).group noted :: parts) cs
      | cs => do
          let (node, cs) ← readAtom? opts cs
          readSequence? fuel ctx (node :: parts) cs
termination_by structural fuel => fuel

end

/-- How deep a pattern may be nested. -/
def maxDepth : Nat := 250

/-- The expression of a pattern. Between two calls of the reader a character is taken, so the fuel
lasts. -/
def Regex.ofText? (text : String) : Option Regex := do
  let cs := text.toList
  let (branches, _, rest) ← readBranches? (2 * cs.length + 3) {} cs
  guard rest.isEmpty
  let node := Node.choice branches
  guard (node.depth ≤ maxDepth && node.regex.fits)
  return node.regex

end ConfigSchema.Pattern

namespace ConfigSchema

/-- A pattern that a text has to match from its first character. -/
structure Pattern where
  /-- The pattern as it is written. -/
  source : String
  /-- Its expression; a malformed pattern has none. -/
  regex? : Option Pattern.Regex
  /-- The source decides the expression. -/
  regex?_eq : regex? = Pattern.Regex.ofText? ("^(?:" ++ source ++ ")")

/-- The pattern that is written as `source`. -/
def Pattern.ofString (source : String) : Pattern := ⟨source, _, rfl⟩

end ConfigSchema
