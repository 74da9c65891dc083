import FlagSheet.Markup.Line

namespace FlagSheet.Markup.Table

def cells : List Char → List (List Char)
  | [] => [[]]
  | '|' :: rest => [] :: cells rest
  | '\\' :: c :: rest =>
    match cells rest with
    | [] => [['\\', c]]
    | cell :: more => ('\\' :: c :: cell) :: more
  | c :: rest =>
    match cells rest with
    | [] => [[c]]
    | cell :: more => (c :: cell) :: more

/-- The number of columns of a row of names, where a bar at either edge is no boundary. None without a
bar, and none when the row ends with a backslash that is not itself escaped. -/
def nameColumns? (row : List Char) : Option Nat :=
  let parts := cells row
  if parts.length ≤ 1 || (row.reverse.takeWhile (· = '\\')).length % 2 = 1 then none
  else
    let blankEdges := (if parts.head?.any blankRest then 1 else 0) +
      (if parts.getLast?.any blankRest then 1 else 0)
    some (parts.length - blankEdges)

def ruleColumns? (row : List Char) : Option Nat :=
  let inner := row.dropWhile (· = ' ')
  if 3 < row.length - inner.length then none
  else
    let parts := cells (if inner.head? = some '|' then inner.tail else inner)
    let closed := parts.dropLast
    if inner.all (fun c => c = ' ' || c = ':' || c = '-' || c = '|') && inner.contains '|' &&
        inner.contains '-' && closed.all (·.contains '-') then
      some (closed.length + if parts.getLast?.any (·.all (· = ' ')) then 0 else 1)
    else none

def isHead (names rule : List Char) : Bool :=
  match nameColumns? names, ruleColumns? rule with
  | some m, some n => m = n
  | _, _ => false

end FlagSheet.Markup.Table
