import FlagSheet.Markup.Line

namespace FlagSheet.Markup.Html

def matchesName (name cs : List Char) : Bool := cs.map Char.toLower = name

def verbatimNames : List String := ["pre", "style", "script", "textarea"]

def blockNames : List String :=
  ["address", "article", "aside", "base", "basefont", "blockquote", "body", "caption", "center",
    "col", "colgroup", "dd", "details", "dialog", "dir", "div", "dl", "dt", "fieldset",
    "figcaption", "figure", "footer", "form", "frame", "frameset", "h1", "h2", "h3", "h4", "h5",
    "h6", "head", "header", "hr", "html", "iframe", "legend", "li", "link", "main", "menu",
    "menuitem", "nav", "noframes", "ol", "optgroup", "option", "p", "param", "search", "section",
    "summary", "table", "tbody", "td", "tfoot", "th", "thead", "title", "tr", "track", "ul"]

def verbatimEnd? (cs : List Char) : Option (List Char) :=
  (verbatimNames.find? fun name =>
    matchesName name.toList (cs.take name.length) &&
      (cs.drop name.length).head?.all (fun c => isInlineSpace c || c = '>')).map
    fun name => "</".toList ++ name.toList ++ ">".toList

def closing? (cs : List Char) : Option (List Char) :=
  match verbatimEnd? cs with
  | some text => some text
  | none =>
    if "!--".toList.isPrefixOf cs then some "-->".toList
    else if "?".toList.isPrefixOf cs then some "?>".toList
    else if "![CDATA[".toList.isPrefixOf cs then some "]]>".toList
    else
      match cs with
      | '!' :: c :: _ => if c.isAlpha then some ['>'] else none
      | _ => none

def isBlockTag (cs : List Char) : Bool :=
  let inner := match cs with
    | '/' :: rest => rest
    | _ => cs
  let name := inner.takeWhile Char.isAlphanum
  let rest := inner.drop name.length
  blockNames.any (fun known => matchesName known.toList name) &&
    (rest.head?.all (fun c => c = ' ' || c = '\t' || c = '>') || "/>".toList.isPrefixOf rest)

inductive TagState where
  | name
  | gap
  | key
  | afterKey
  | value
  | bareValue
  | quotedValue (quote : Char)
  | afterValue
  | slash

def startsKey (c : Char) : Bool := c.isAlpha || c = '_' || c = ':'

def isKeyChar (c : Char) : Bool := c.isAlphanum || c = '_' || c = '.' || c = ':' || c = '-'

def TagState.next? (s : TagState) (c : Char) : Option TagState :=
  match s with
  | name => if c.isAlphanum || c = '-' then some name else between c
  | gap =>
    if isInlineSpace c then some gap else if startsKey c then some key else between c
  | key =>
    if isKeyChar c then some key
    else if isInlineSpace c then some afterKey
    else if c = '=' then some value
    else between c
  | afterKey =>
    if isInlineSpace c then some afterKey
    else if startsKey c then some key
    else if c = '=' then some value
    else between c
  | value =>
    if isInlineSpace c then some value
    else if c = '"' || c = '\x27' then some (quotedValue c)
    else if c = '=' || c = '>' || c = '<' || c = '\x60' then none
    else some bareValue
  | bareValue =>
    if c = ' ' then some gap
    else if c = '"' || c = '\x27' || c = '=' || c = '>' || c = '<' || c = '\x60' then none
    else some bareValue
  | quotedValue quote => if c = quote then some afterValue else some (quotedValue quote)
  | afterValue => between c
  | slash => none
where
  between (c : Char) : Option TagState :=
    if isInlineSpace c then some gap else if c = '/' then some slash else none

def TagState.canClose : TagState → Bool
  | value => false
  | quotedValue _ => false
  | _ => true

def afterTag? (s : TagState) : List Char → Option (List Char)
  | [] => none
  | c :: cs =>
    if c = '>' && s.canClose then some cs
    else
      match s.next? c with
      | some s' => afterTag? s' cs
      | none => none

def afterAnyTag? (cs : List Char) : Option (List Char) :=
  match cs with
  | '/' :: c :: rest =>
    if c.isAlpha then
      match (rest.dropWhile (fun x => x.isAlphanum || x = '-')).dropWhile isInlineSpace with
      | '>' :: after => some after
      | _ => none
    else none
  | c :: rest => if c.isAlpha then afterTag? .name rest else none
  | [] => none

inductive Extent where
  | through (closing : List Char)
  | beforeBlank
deriving DecidableEq, Repr

def interrupting? (cs : List Char) : Option Extent :=
  match cs with
  | '<' :: rest =>
    match closing? rest with
    | some text => some (.through text)
    | none => if isBlockTag rest then some .beforeBlank else none
  | _ => none

/-- The extent of any block that begins here; a tag of another element has to stand alone on its line. -/
def block? (cs : List Char) : Option Extent :=
  match interrupting? cs with
  | some extent => some extent
  | none =>
    match cs with
    | '<' :: rest => if (afterAnyTag? rest).any blankRest then some .beforeBlank else none
    | _ => none

def occursIn (part : List Char) : List Char → Bool
  | [] => part.isEmpty
  | c :: cs => part.isPrefixOf (c :: cs) || occursIn part cs

end FlagSheet.Markup.Html
