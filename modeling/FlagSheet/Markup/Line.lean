namespace FlagSheet.Markup

inductive LineEnd where
  | bare
  | lineFeed
  | carriageReturn
  | both
deriving DecidableEq, Repr

def LineEnd.chars : LineEnd → List Char
  | bare => []
  | lineFeed => ['\n']
  | carriageReturn => ['\r']
  | both => ['\r', '\n']

structure Line where
  text : List Char
  ending : LineEnd
deriving DecidableEq, Repr

def Line.source (l : Line) : List Char := l.text ++ l.ending.chars

def Line.cons (c : Char) (l : Line) : Line := ⟨c :: l.text, l.ending⟩

/-- The lines of a text; an empty line after the last ending is no line. -/
def lines : List Char → List Line
  | [] => []
  | '\r' :: '\n' :: rest => ⟨[], .both⟩ :: lines rest
  | '\r' :: rest => ⟨[], .carriageReturn⟩ :: lines rest
  | '\n' :: rest => ⟨[], .lineFeed⟩ :: lines rest
  | c :: rest =>
    match lines rest with
    | [] => [⟨[c], .bare⟩]
    | l :: ls => l.cons c :: ls

theorem lines_cons {c : Char} (hfeed : c ≠ '\n') (hreturn : c ≠ '\r') (cs : List Char) :
    lines (c :: cs) = match lines cs with
      | [] => [⟨[c], .bare⟩]
      | l :: ls => l.cons c :: ls :=
  lines.eq_5 c cs (fun _ h _ => hreturn h) hreturn hfeed

theorem flatMap_source_lines (cs : List Char) : (lines cs).flatMap Line.source = cs := by
  fun_induction lines cs with
  | case1 => rfl
  | case2 rest ih => simp [Line.source, LineEnd.chars, ih]
  | case3 rest _ ih => simp [Line.source, LineEnd.chars, ih]
  | case4 rest ih => simp [Line.source, LineEnd.chars, ih]
  | case5 c rest _ _ _ h ih => simp_all [Line.source, LineEnd.chars]
  | case6 c rest _ _ _ l ls h ih => simp_all [Line.source, Line.cons]

def isInlineSpace (c : Char) : Bool := c = ' ' || c = '\t' || c = '\x0b' || c = '\x0c'

def blankRest (cs : List Char) : Bool := cs.all isInlineSpace

def isPunctuation (c : Char) : Bool :=
  ('!' ≤ c && c ≤ '/') || (':' ≤ c && c ≤ '@') || ('[' ≤ c && c.toNat ≤ 0x60) ||
    ('{' ≤ c && c ≤ '~')

end FlagSheet.Markup
