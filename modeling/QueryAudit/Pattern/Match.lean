import QueryAudit.Pattern.Basic

/-! Matching. A match from some place of a text may end in several places; they come in the order
of preference, each once. Going on from one place twice finds nothing new, so that the number of
places bounds the work of a repetition. A name matches if the text can end where a match does.

A possessive repetition stops at the first attempt that fails, and goes on from the place that this
attempt left off at. Alternatives, repetitions and looks take note of a place before they are tried,
and a match takes note of its end; characters do not. -/
namespace QueryAudit.Pattern

/-- What a group matched: the offsets of both ends. -/
structure Span where
  number : Nat
  first : Nat
  last : Nat
deriving DecidableEq, Repr, Inhabited

/-- A place in a text, with the characters before it in reverse, and what the groups matched. -/
structure Cursor where
  /-- The number of characters before. -/
  offset : Nat
  groups : List Span
  before : List Char
  after : List Char
deriving DecidableEq, Repr, Inhabited

namespace Cursor

def ofText (text : List Char) : Cursor := ⟨0, [], [], text⟩

def isAtStart (c : Cursor) : Bool := c.before.isEmpty

def isAtEnd (c : Cursor) : Bool := c.after.isEmpty

def isAt (c d : Cursor) : Bool := c.offset == d.offset

def isOnEdge (c : Cursor) : Bool := c.before.head?.any isWordChar != c.after.head?.any isWordChar

def group? (c : Cursor) (number : Nat) : Option Span := c.groups.find? (·.number = number)

def setGroup (c : Cursor) (number first : Nat) : Cursor :=
  { c with groups := ⟨number, first, c.offset⟩ :: c.groups.filter (·.number ≠ number) }

/-- The text between two offsets. -/
def textOf (c : Cursor) (span : Span) : List Char :=
  ((c.before.reverse ++ c.after).drop span.first).take (span.last - span.first)

def step? (holds : Char → Bool) (c : Cursor) : Option Cursor :=
  match c.after with
  | [] => none
  | a :: rest =>
    if holds a then some { c with offset := c.offset + 1, before := a :: c.before, after := rest }
    else none

/-- Passes over a text, if it stands here. -/
def pass? (letters : LetterCase) (text : List Char) (c : Cursor) : Option Cursor :=
  text.foldlM (fun c a => c.step? fun b => b.toNat ∈ letters.alike a) c

def back? (count : Nat) (c : Cursor) : Option Cursor :=
  if c.before.length < count then none
  else some { c with offset := c.offset - count
                     before := c.before.drop count
                     after := (c.before.take count).reverse ++ c.after }

/-- The places from here on over characters of a class, up to `most` of them. -/
def run (holds : Char → Bool) (most : Option Nat) : (fuel : Nat) → Cursor → List Cursor
  | 0, c => [c]
  | fuel + 1, c =>
    if most = some 0 then [c]
    else
      match c.step? holds with
      | some d => c :: run holds (most.map (· - 1)) fuel d
      | none => [c]

end Cursor

/-- Each place once, if no groups are kept that tell one way to it from another. -/
def distinct (kept : List Nat) (ends : List Cursor) : List Cursor :=
  if kept.isEmpty then ends.eraseDups else ends

/-- The ends of exactly `count` steps. -/
def endsAfter (step : Cursor → List Cursor) : Nat → List Cursor → List Cursor
  | 0, ends => ends
  | count + 1, ends =>
    if ends.isEmpty then [] else endsAfter step count (ends.flatMap step).eraseDups

/-- The ends found so far, the last one first, and the places that were gone on from, with the
number of steps that were left there. -/
structure Search where
  seen : List (Option Nat × Cursor)
  found : List Cursor

def Search.add (search : Search) (c : Cursor) : Search := { search with found := c :: search.found }

/-- Goes on from a place by up to `left` steps, where the longest or the shortest way comes first.
A step that consumes nothing ends the repetition. Each further step consumes a character, so
`fuel` may be their number. -/
def search (step : Cursor → List Cursor) (shortest : Bool) :
    (fuel : Nat) → (left : Option Nat) → Cursor → Search → Search
  | 0, _, c, known => known.add c
  | fuel + 1, left, c, known =>
    if (left, c) ∈ known.seen then known
    else
      let known := { known with seen := (left, c) :: known.seen }
      let known := if shortest then known.add c else known
      let known := if left = some 0 then known
        else (step c).foldl (fun known d =>
          if d.isAt c then known.add d
          else search step shortest fuel (left.map (· - 1)) d known) known
      if shortest then known else known.add c

/-- The ends of up to `left` steps from one of several places. No more than `room` characters
follow any of them. -/
def endsWithin (step : Cursor → List Cursor) (shortest : Bool) (left : Option Nat) (room : Nat)
    (starts : List Cursor) : List Cursor :=
  let left := left.bind fun n => if room < n then none else some n
  let known := starts.foldl (fun known c => search step shortest (room + 1) left c known) ⟨[], []⟩
  known.found.reverse.eraseDups

/-- Preferred steps only, as many as there are, and then the place that the failed one left off
at; the groups are those before it. -/
def lastWithin (step? : Cursor → Option Cursor) (leaves : Cursor → Cursor) :
    (fuel : Nat) → (left : Option Nat) → Cursor → Cursor
  | 0, _, c => c
  | fuel + 1, left, c =>
    if left = some 0 then c
    else
      match step? c with
      | none => { leaves c with groups := c.groups }
      | some d => if d.isAt c then d else lastWithin step? leaves fuel (left.map (· - 1)) d

/-- All steps that are required beyond the length of a text consume nothing, and few of them tell
as much as many. -/
def requiredSteps (least : Nat) (c : Cursor) : Nat := min least (c.after.length + 2)

/-- The end of as many preferred steps as are required, and of all that follow. -/
def possessiveEnd? (step? : Cursor → Option Cursor) (leaves : Cursor → Cursor) (least : Nat)
    (most : Option Nat) (c : Cursor) : Option Cursor :=
  let required := (List.range (requiredSteps least c)).foldlM (fun d _ => step? d) c
  required.map (lastWithin step? leaves (c.after.length + 1) (most.map (· - least)))

/-- The character that everything begins with; `next` is the one behind it. -/
def lead (next : Option Nat) : Pattern → Option Nat
  | empty => next
  | sequence first second => lead (lead next second) first
  | one cls => if cls.negated then none else cls.code?
  | _ => none

/-- Whether an alternative is tried: what begins with a class is looked at beforehand. A class that
excludes a single character is not. -/
def isTried (c : Cursor) : Pattern → Bool
  | either left right => isTried c left || isTried c right
  | p =>
    match p.parts with
    | one cls :: _ =>
      cls.isFolded || (cls.negated && cls.code?.isSome) || (c.step? cls.holds).isSome
    | _ => true

/-- The class of a pattern that takes exactly one character and does nothing else. -/
def class? (p : Pattern) : Option CharClass :=
  match p.parts with
  | [one cls] => some cls
  | _ => none

/-- Where a failed attempt leaves off that repeats one class and goes on with what begins with
`next`; `noted` is the place that was noted last. -/
def leavesRun (cls : CharClass) (least : Nat) (most : Option Nat) (greed : Greed)
    (next : Option Nat) (go : Cursor → Cursor → Cursor) (c noted : Cursor) : Cursor :=
  if c.after.length < least then noted
  else
    let places := c.run cls.holds most c.after.length
    let counted := if cls.notes then places.getLastD c else c
    if places.length ≤ least then counted
    else
      match greed with
      | .shortest =>
        if cls.notes then (c.run cls.holds (most.map (· + 1)) c.after.length).getLastD c
        else places.getLastD c
      | .possessive => go (places.getLastD c) counted
      | .longest =>
        let tried := (places.drop least).filter fun d =>
          next.all fun code => d.after.head?.any (·.toNat = code)
        match tried with
        | [] => counted
        | d :: _ => go d d

mutual

/-- The ends of all matches from a place. Only the groups in `kept` are remembered. -/
def ends (kept : List Nat) (p : Pattern) (c : Cursor) : List Cursor :=
  match p with
  | empty => [c]
  | start => if c.isAtStart then [c] else []
  | finish => if c.isAtEnd || c.after = ['\n'] then [c] else []
  | textEnd => if c.isAtEnd then [c] else []
  | wordEdge expected =>
    if (c.isAtStart && c.isAtEnd) || c.isOnEdge != expected then [] else [c]
  | one cls => (c.step? cls.holds).toList
  | sequence first second => distinct kept ((ends kept first c).flatMap (ends kept second))
  | either left right => distinct kept (ends kept left c ++ ends kept right c)
  | repeated inner least most greed =>
    let step := ends kept inner
    let required := requiredSteps least c
    let left := most.map (· - least)
    match greed with
    | .longest => endsWithin step false left c.after.length (endsAfter step required [c])
    | .shortest => endsWithin step true left c.after.length (endsAfter step required [c])
    | .possessive =>
      (possessiveEnd? (fun c => (step c).head?) (fun c => leaves kept inner none (fun d _ => d) c c)
        least most c).toList
  | group number inner =>
    if number ∈ kept then
      (ends kept inner c).map (·.setGroup number c.offset)
    else ends kept inner c
  | reference number letters =>
    match c.group? number with
    | some span => (c.pass? letters (c.textOf span)).toList
    | none => []
  | condition number present absent =>
    if (c.group? number).isSome then ends kept present c else ends kept absent c
  | atomic inner => (ends kept inner c).take 1
  | look back expected inner =>
    let found := (c.back? (back.getD 0)).bind fun from_ => (ends kept inner from_).head?
    match found, expected with
    | some d, true => [{ c with groups := d.groups }]
    | none, false => [c]
    | _, _ => []

/-- Where a failed attempt leaves off. It goes on with `go`, which begins with the character
`next`; `noted` is the place that was noted last. Of several ways only the last one that is tried
counts, as each notes its place first. -/
def leaves (kept : List Nat) (p : Pattern) (next : Option Nat) (go : Cursor → Cursor → Cursor)
    (c noted : Cursor) : Cursor :=
  match p with
  | empty => go c noted
  | start => if c.isAtStart then go c noted else noted
  | finish => if c.isAtEnd || c.after = ['\n'] then go c noted else noted
  | textEnd => if c.isAtEnd then go c noted else noted
  | wordEdge expected =>
    if (c.isAtStart && c.isAtEnd) || c.isOnEdge != expected then noted else go c noted
  | one cls =>
    match c.step? cls.holds with
    | some d => go d noted
    | none => noted
  | sequence first second =>
    leaves kept first (lead next second) (fun c noted => leaves kept second next go c noted) c noted
  | either left right =>
    if isTried c right then leaves kept right none go c c
    else if isTried c left then leaves kept left none go c c
    else noted
  | repeated inner least most greed =>
    match inner.class?, greed with
    | some cls, greed => leavesRun cls least most greed next go c noted
    | none, .possessive =>
      let found := possessiveEnd? (fun c => (ends kept inner c).head?)
        (fun c => leaves kept inner none (fun d _ => d) c c) least most c
      match found with
      | some d => go d d
      | none => c
    | none, _ => c
  | group number inner =>
    leaves kept inner none (fun d noted =>
      go (if number ∈ kept then d.setGroup number c.offset else d) noted) c noted
  | reference number letters =>
    match (c.group? number).bind fun span => c.pass? letters (c.textOf span) with
    | some d => go d noted
    | none => noted
  | condition number present absent =>
    if (c.group? number).isSome then
      leaves kept present (if absent.parts.isEmpty then next else none) go c noted
    else leaves kept absent next go c noted
  | atomic inner =>
    match (ends kept inner c).head? with
    | some d => go d d
    | none => c
  | look back expected inner =>
    match c.back? (back.getD 0) with
    | none => if expected then noted else go c noted
    | some from_ =>
      match (ends kept inner from_).head?, expected with
      | some d, true => go { c with groups := d.groups } d
      | some d, false => d
      | none, true => leaves kept inner none (fun d _ => d) from_ from_
      | none, false => go c (leaves kept inner none (fun d _ => d) from_ from_)

end

/-- The groups that some part looks back at. -/
def referred : Pattern → List Nat
  | reference number _ => [number]
  | condition number present absent => number :: (referred present ++ referred absent)
  | sequence a b | either a b => referred a ++ referred b
  | repeated inner _ _ _ | group _ inner | atomic inner | look _ _ inner => referred inner
  | empty | start | finish | textEnd | wordEdge _ | one _ => []

def fullMatch (p : Pattern) (name : String) : Bool :=
  (p.ends p.referred (.ofText name.toList)).any (·.isAtEnd)

end QueryAudit.Pattern
