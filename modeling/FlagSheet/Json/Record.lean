import FlagSheet.Json.Skip

namespace FlagSheet.Json

/-- The fault of a value of the wrong kind: it is read for faults of its own first, but not what stands
between brackets. -/
def wrongKind (bs : Bytes) : Fault :=
  match bs with
  | [] => .truncated
  | b :: rest =>
    match Char.ofNat b.toNat with
    | 'n' => faultOf (readWord ['u', 'l', 'l'] rest)
    | 't' => faultOf (readWord ['r', 'u', 'e'] rest)
    | 'f' => faultOf (readWord ['a', 'l', 's', 'e'] rest)
    | '"' => faultOf (readString rest)
    | '[' => .unfit
    | '{' => .unfit
    | _ => if startsNumber b then faultOf (readNumber bs) else .malformed
where
  faultOf {α : Type} : Reading α → Fault
    | .error e => e
    | .ok _ => .unfit

def readText (bs : Bytes) : Reading String :=
  match skipSpace bs with
  | 0x22 :: rest => readString rest
  | bs => .error (wrongKind bs)

def readOptionalText (bs : Bytes) : Reading (Option String) :=
  match skipSpace bs with
  | 0x6e :: rest => (readWord ['u', 'l', 'l'] rest).map fun r => (none, r.2)
  | bs => (readText bs).map fun r => (some r.1, r.2)

def readNatural (bs : Bytes) : Reading UInt64 :=
  match skipSpace bs with
  | b :: rest =>
    if startsNumber b then
      match readNumber (b :: rest) with
      | .ok (.natural n, rest) => .ok (n, rest)
      | .ok _ => .error .unfit
      | .error e => .error e
    else .error (wrongKind (b :: rest))
  | [] => .error .truncated

def afterColon (bs : Bytes) : Except Fault Bytes :=
  match skipSpace bs with
  | [] => .error .truncated
  | 0x3a :: rest => .ok rest
  | _ => .error .malformed

/-- Reads the members of an object, at most `count` of them, from the first name on. What has been read so far is
handed to `member`, with the name of the next member and the bytes behind the name. -/
def readNamed {σ : Type} (member : σ → String → Bytes → Reading σ) (count : Nat) (s : σ)
    (bs : Bytes) : Reading σ :=
  match count with
  | 0 => .error .truncated
  | count + 1 =>
    match skipSpace bs with
    | [] => .error .truncated
    | 0x22 :: rest =>
      match readString rest with
      | .error e => .error e
      | .ok (name, rest) =>
        match member s name rest with
        | .error e => .error e
        | .ok (s, rest) =>
          match skipSpace rest with
          | [] => .error .truncated
          | 0x7d :: rest => .ok (s, rest)
          | 0x2c :: rest => readNamed member count s rest
          | _ => .error .malformed
    | _ => .error .malformed

def readObject {σ : Type} (member : σ → String → Bytes → Reading σ) (s : σ) (bs : Bytes) :
    Reading σ :=
  match skipSpace bs with
  | 0x7d :: rest => .ok (s, rest)
  | rest => readNamed member rest.length s rest

def readField {α : Type} (earlier : Option α) (read : Bytes → Reading α) (bs : Bytes) : Reading α :=
  if earlier.isSome then .error .unfit
  else
    match afterColon bs with
    | .error e => .error e
    | .ok rest => read rest

def skipMember {σ : Type} (s : σ) (bs : Bytes) : Reading σ :=
  match afterColon bs with
  | .error e => .error e
  | .ok rest => (skipValue rest).map fun rest => (s, rest)

def readItem {α : Type} (first : Bool) (read : Bytes → Reading α) (bs : Bytes) : Reading (Option α) :=
  match skipSpace bs with
  | [] => .error .truncated
  | 0x5d :: rest => .ok (none, 0x5d :: rest)
  | b :: rest =>
    if first then (read (b :: rest)).map fun r => (some r.1, r.2)
    else if b = 0x2c then
      match skipSpace rest with
      | [] => .error .truncated
      | 0x5d :: _ => .error .malformed
      | rest => (read rest).map fun r => (some r.1, r.2)
    else .error .malformed

def closeList (bs : Bytes) : Except Fault Bytes :=
  match skipSpace bs with
  | [] => .error .truncated
  | 0x5d :: rest => .ok rest
  | _ => .error .malformed

def readRecord {α : Type} (fromObject fromArray : Bytes → Reading α) (bs : Bytes) : Reading α :=
  match skipSpace bs with
  | 0x7b :: rest => fromObject rest
  | 0x5b :: rest =>
    match fromArray rest with
    | .error e => .error e
    | .ok (v, rest) => (closeList rest).map fun rest => (v, rest)
  | bs => .error (wrongKind bs)

def required {α : Type} : Option α → Except Fault α
  | some v => .ok v
  | none => .error .unfit

end FlagSheet.Json
