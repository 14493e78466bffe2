import Taskflow.Text.Basic
import Taskflow.Json.Show
/-!
Internet addresses as a URL may write them in brackets.
-/

namespace Taskflow.Web

open Text

/-- A dotted IPv4 address. -/
def isIPv4 (s : String) : Bool :=
  let parts := splitOn s "."
  parts.length == 4 && parts.all fun p =>
    !p.isEmpty && p.all Char.isDigit && p.length ≤ 3 && (p == "0" || !startsWith p "0") &&
      p.toList.foldl (fun n c => 10 * n + (c.toNat - 48)) 0 ≤ 255

def isHextet (s : String) : Bool :=
  !s.isEmpty && s.length ≤ 4 && s.all fun c => c.isDigit || ('a' ≤ c && c ≤ 'f') || ('A' ≤ c && c ≤ 'F')

/-- The groups of an IPv6 address, with a trailing IPv4 address counted as two groups; none
when that IPv4 address is malformed. -/
def hextetParts (s : String) : Option (List String) :=
  let parts := splitOn s ":"
  match parts.getLast? with
  | some last =>
    if last.contains '.' then (if isIPv4 last then some (parts.dropLast ++ ["0", "0"]) else none)
    else some parts
  | none => some parts

/-- An IPv6 address without its zone. -/
def isIPv6Bare (s : String) : Bool :=
  !s.isEmpty && (splitOn s ":").length ≥ 3 &&
  match hextetParts s with
  | none => false
  | some parts =>
    let n := parts.length
    let inner := ((parts.drop 1).take (n - 2)).zipIdx.filter (·.1.isEmpty)
    n ≤ 9 &&
    match inner with
    | [] =>
      n == 8 && parts.all isHextet
    | [(_, k)] =>
      let skip := k + 1
      let hi := if (parts.headD "").isEmpty then skip - 1 else skip
      let lo := if (parts.getLastD "").isEmpty then n - skip - 2 else n - skip - 1
      let hiOk := !(parts.headD "").isEmpty || skip - 1 == 0
      let loOk := !(parts.getLastD "").isEmpty || n - skip - 2 == 0
      hiOk && loOk && hi + lo ≤ 7 && (parts.take hi).all isHextet &&
        (parts.drop (n - lo)).all isHextet
    | _ => false

/-- An IPv6 address, with a zone after `%` when it has one. -/
def isIPv6 (s : String) : Bool :=
  !s.contains '/' &&
  match splitOn s "%" with
  | [addr] => isIPv6Bare addr
  | [addr, zone] => !zone.isEmpty && isIPv6Bare addr
  | _ => false

/-- A future address form: `v`, hexadecimal digits, a dot, and at least one more character. -/
def isFutureAddress (s : String) : Bool :=
  match s.toList with
  | 'v' :: rest =>
    let ds := rest.takeWhile fun c => c.isDigit || ('a' ≤ c && c ≤ 'f') || ('A' ≤ c && c ≤ 'F')
    !ds.isEmpty && (rest.drop ds.length).length ≥ 2 && (rest.drop ds.length).head? == some '.'
  | _ => false

/-- Why a host written in brackets is refused, if it is. -/
def bracketedHostError (host : String) : Option String :=
  if startsWith host "v" then
    if isFutureAddress host then none else some "IPvFuture address is invalid"
  else if isIPv4 host then some "An IPv4 address cannot be in brackets"
  else if isIPv6 host then none
  else some s!"{Json.quoteShown host} does not appear to be an IPv4 or IPv6 address"

end Taskflow.Web
