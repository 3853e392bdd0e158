import DisStore.Lib.CString

/-!
# Portals: from the portal file to the portal list of a session

`createHost` of `nbdxadm` joins the lines of the portal file, `portal_attr_store` of
`is_configfs.c` puts the prefix before the string, and `IS_session_create` copies it to the
session, where `portal_parser` of `is_main.c` takes it apart. A null pointer that is followed
and a read past the mapped memory are faults, and have no result. Allocations succeed.
-/

namespace DisStore
open DisStore.Lib

/-- `MAX_PORTAL_NAME` -/
def maxPortalName : Nat := 1024

/-- `struct IS_portal`; `addr` are the characters copied there, for which it has 16 bytes with
the null character. What a longer address overwrites is not followed. -/
structure ISPortal where
  port : UInt16
  addr : List Char
  deriving DecidableEq

/-- One iteration of the loop of `portal_parser`: the memory from `single_portal` on, the final
`j`, the place relative to `single_portal` where `sscanf` stops, and the entry stored. -/
structure PortalScan where
  singlePortal : List Char
  colon : Nat
  numberEnd : Nat
  portal : ISPortal
  deriving DecidableEq

def scanPortal (singlePortal : List Char) : Option PortalScan := do
  let j ← singlePortal.findIdx? (· == ':')
  let number ← sscanfInt (singlePortal.drop (j + 1))
  -- port = 0; sscanf(single_portal+j+1, "%d", &port);
  let port := number.value.getD 0
  some { singlePortal := singlePortal
         colon := j
         numberEnd := j + 1 + number.stop
         portal := { port := UInt16.ofInt port, addr := singlePortal.take j } }

/-- `n` iterations of the loop of `portal_parser`. -/
def portalLoop : Nat → Option (List Char) → Option (List PortalScan)
  | 0, _ => some []
  | n + 1, ptr => do
    -- once ptr is NULL, strsep returns NULL, and the scan for the colon follows it
    let text ← ptr
    let (singlePortal, ptr) ← strsep ',' text
    let scan ← scanPortal singlePortal
    let scans ← portalLoop n ptr
    some (scan :: scans)

/-- What `portal_parser` leaves in the session. -/
structure ParsedPortals where
  cbNum : Int
  scans : List PortalScan
  deriving DecidableEq

/-- `portal_list` -/
def ParsedPortals.portalList (p : ParsedPortals) : List ISPortal := p.scans.map (·.portal)

/-- `portal_parser`; `portal` is the memory from the buffer of the session on. -/
def portalParser (portal : List Char) : Option ParsedPortals := do
  let (first, ptr) ← strsep ',' (portal.drop 7)
  let number ← sscanfInt first
  let pCount := number.value.getD 0
  let scans ← portalLoop pCount.toNat ptr
  some { cbNum := pCount, scans := scans }

/-- The memory from the buffer of a new session on: `kzalloc` has cleared the buffer. -/
def newSession (beyond : List Char) : List Char :=
  List.replicate maxPortalName '\x00' ++ beyond

/-- `IS_session_create`, with the return value and what `portal_parser` has stored;
`portal_parser` returns nothing. `connRets` are the results of `IS_create_conn`, one for each
queue. -/
def isSessionCreate (connRets : List Int) (session portal : List Char) :
    Option (Int × ParsedPortals) := do
  -- memcpy(IS_session->portal, portal, strlen(portal));
  let parsed ← portalParser (portal ++ session.drop portal.length)
  some ((connRets.find? (· ≠ 0)).getD 0, parsed)

/-- `"rdma://"` -/
def rdmaPrefix : List Char := ['r', 'd', 'm', 'a', ':', '/', '/']

/-- `strcat(rdma, buf)` -/
def strcatRdma (buf : List Char) : List Char := rdmaPrefix ++ buf.takeWhile (· != '\x00')

/-- `rdma` after `sscanf(strcat(rdma, buf), "%s", rdma)`. -/
def attrPortal (buf : List Char) : List Char := (strcatRdma buf).takeWhile isPlain

/-- The portal of a session in the list, as `strcmp` reads it. -/
structure SessionName where
  text : List Char
  no_comma : ',' ∉ text

def SessionName.new : SessionName := { text := [], no_comma := nofun }

/-- Once `portal_parser` has run, a null character stands in the place of the first comma. -/
def SessionName.ofFirst {portal first : List Char} {ptr : Option (List Char)}
    (h : strsep ',' portal = some (first, ptr)) : SessionName where
  text := rdmaPrefix ++ first.takeWhile (· != '\x00')
  no_comma := by
    rw [List.mem_append, not_or]
    exact ⟨by decide, strsep_cuts h⟩

/-- The results of `portal_attr_store`, with the portals that are in the session afterwards. -/
inductive StoreResult
  | eexist
  | einval (parsed : ParsedPortals)
  | count (parsed : ParsedPortals)
  deriving DecidableEq

/-- `portal_attr_store` of a buffer to a session, with the sessions of `g_IS_sessions`. -/
def portalAttrStore (sessions : List SessionName) (connRets : List Int)
    (session buf : List Char) : Option StoreResult := do
  let rdma := attrPortal buf
  -- IS_session_find_by_portal
  if sessions.any (fun pos => pos.text == rdma) then some .eexist
  else
    let (ret, parsed) ← isSessionCreate connRets session rdma
    if ret ≠ 0 then some (.einval parsed) else some (.count parsed)

/-- `readlines()`: every line with its newline, the last one without it if there is none. -/
def readlines : List Char → List (List Char)
  | [] => []
  | c :: rest =>
    if c = '\n' then [c] :: readlines rest
    else match readlines rest with
      | [] => [[c]]
      | line :: lines => (c :: line) :: lines

/-- What `strip()` removes. -/
def isStripped (c : Char) : Bool :=
  c == ' ' || c == '\t' || c == '\n' || c == '\x0b' || c == '\x0c' || c == '\x0d'

/-- `strip()` -/
def strip (line : List Char) : List Char :=
  ((line.dropWhile isStripped).reverse.dropWhile isStripped).reverse

/-- The loop of `createHost` over the lines, with `p_str`. -/
def joinLines (lines : List (List Char)) (pStr : List Char) : List Char :=
  lines.foldl (fun pStr line => if line = ['\n'] then pStr else pStr ++ strip line ++ [',']) pStr

/-- The string that `createHost` writes to the attribute, for the content of a portal file. -/
def createHost (file : List Char) : List Char := joinLines (readlines file) []

end DisStore
