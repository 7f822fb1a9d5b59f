/-! Upper case as far as the names of levels need it: the ASCII letters, and the two letters
outside ASCII whose upper case is one of these. -/
namespace QueryAudit.Text

def upperChar (c : Char) : Char :=
  if c = 'ı' then 'I' else if c = 'ſ' then 'S' else c.toUpper

def upper (s : String) : String := s.map upperChar

end QueryAudit.Text
