/-! Two ways to divide a text into lines. Source lines end at a line feed, a carriage return or
both; prose lines end at every character that separates lines or paragraphs. -/
namespace QueryAudit.Text

/-- Divides at line feeds, carriage returns and pairs of them; a final line end is followed by an
empty last line. -/
def sourceLines : List Char → List (List Char)
  | [] => [[]]
  | '\r' :: '\n' :: rest => [] :: sourceLines rest
  | c :: rest =>
    if c = '\n' || c = '\r' then [] :: sourceLines rest
    else
      match sourceLines rest with
      | [] => [[c]]
      | line :: lines => (c :: line) :: lines

def isProseBreak (c : Char) : Bool :=
  c ∈ ['\n', '\r', '\x0b', '\x0c', '\x1c', '\x1d', '\x1e', '\u0085', '\u2028', '\u2029']

/-- Divides at every separator; nothing follows a final one. -/
def proseLines : List Char → List (List Char)
  | [] => []
  | '\r' :: '\n' :: rest => [] :: proseLines rest
  | c :: rest =>
    if isProseBreak c then [] :: proseLines rest
    else
      match proseLines rest with
      | [] => [[c]]
      | line :: lines => (c :: line) :: lines

end QueryAudit.Text
