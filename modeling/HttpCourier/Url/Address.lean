import HttpCourier.Text.CodePoint

/-!
# HttpCourier.Url.Address

**Which texts are numeric addresses.** An IPv4 address has four decimal octets without leading
zeros. An IPv6 address has eight groups of up to four hexadecimal digits; `::` stands for one
run of groups that are left out, the last two groups may be spelled as an IPv4 address, and a
zone may follow behind a percent sign.
-/

namespace HttpCourier.Url

/-- Whether the text is an octet in decimal. -/
def isOctet (t : Text) : Bool :=
  !t.isEmpty && t.all CodePoint.isDigit && t.length ≤ 3 &&
    (t = [CodePoint.ofChar '0'] || t.head? != some (CodePoint.ofChar '0')) &&
    Text.digitsValue t ≤ 255

/-- Whether the text is an IPv4 address. -/
def isIPv4 (t : Text) : Bool :=
  let octets := Text.splitOn '.' t
  octets.length = 4 && octets.all isOctet

/-- Whether the text is a group of an IPv6 address. -/
def isGroup (t : Text) : Bool :=
  !t.isEmpty && t.length ≤ 4 && t.all fun c => c.hexValue?.isSome

/-- The colon-separated parts of an IPv6 address, an IPv4 address at the end counted as two
groups. -/
def ipv6Parts? (t : Text) : Option (List Text) :=
  let parts := Text.splitOn ':' t
  if parts.length < 3 then none
  else
    let last := parts.getLastD []
    if last.contains (CodePoint.ofChar '.') then
      if isIPv4 last then some (parts.dropLast ++ [[CodePoint.ofChar '0'], [CodePoint.ofChar '0']]) else none
    else some parts

/-- Whether the groups next to a `::` are in order: `parts` stand on one side of it, the end of
the address first. An empty end means that the `::` is itself at that end. -/
def sideIsValid (parts : List Text) : Bool :=
  match parts with
  | [[]] => true
  | parts => parts.all isGroup

/-- The number of groups that one side of a `::` spells out. -/
def sideCount (parts : List Text) : Nat :=
  match parts with
  | [[]] => 0
  | parts => parts.length

/-- Whether the parts, which hold no more than nine, make an IPv6 address. -/
def partsAreIPv6 (parts : List Text) : Bool :=
  let inner := (parts.drop 1).dropLast
  if inner.count [] = 0 then parts.length = 8 && parts.all isGroup
  else if inner.count [] = 1 then
    let before := parts.take 1 ++ inner.takeWhile (· ≠ [])
    let after := (inner.dropWhile (· ≠ [])).drop 1 ++ [parts.getLastD []]
    sideIsValid before && sideIsValid after && sideCount before + sideCount after ≤ 7
  else false

/-- Whether the text is an IPv6 address. -/
def isIPv6 (t : Text) : Bool :=
  let addressOnly? :=
    match Text.splitFirst? '%' t with
    | none => some t
    | some (address, zone) =>
      if zone.isEmpty || zone.contains (CodePoint.ofChar '%') then none else some address
  match addressOnly? with
  | none => false
  | some address =>
    match ipv6Parts? address with
    | none => false
    | some parts => parts.length ≤ 9 && partsAreIPv6 parts

end HttpCourier.Url
