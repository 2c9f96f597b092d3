import SnpTestbed.Fetch.Fetcher
import SnpTestbed.Product
import SnpTestbed.Text.Hex
import SnpTestbed.Text.Pem

/-!
# The key distribution service

The URLs under which the service keeps the certificate chain of a product line
and the key of a chip at its patch levels, and fetching them.
-/
namespace SnpTestbed.Kds

/-- The address of the service. -/
def site : String := "https://kdsintf.amd.com"

/-- The path of everything about chip keys. -/
def keyPath : String := "/vcek/v1"

/-- The last part of a chain's path. -/
def chainName : String := "cert_chain"

/-- The patch levels that a chip's key depends on. -/
structure PatchLevels where
  bootloader : UInt8 := 0
  tee : UInt8 := 0
  snp : UInt8 := 0
  microcode : UInt8 := 0
  deriving DecidableEq, Repr

/-- The levels in a raw version: in its bytes 0, 1, 6 and 7 from the least significant on. -/
def PatchLevels.ofRaw (raw : UInt64) : PatchLevels where
  bootloader := raw.toUInt8
  tee := (raw >>> 8).toUInt8
  snp := (raw >>> 48).toUInt8
  microcode := (raw >>> 56).toUInt8

/-- Why something is not had from the service. -/
inductive Error
  | unsupportedProduct (line : ProductLine)
  | fetch (error : FetchError)
  | pem (fault : Pem.Fault)
  | chainLength (count : Nat)
  deriving DecidableEq

/-- The text of an error that has one. -/
def Error.message? : Error → Option String
  | .unsupportedProduct line => some ("no KDS path for product " ++ line.title)
  | .fetch error => some ("Http error: " ++ error.message)
  | .pem fault => fault.message?.map ("PEM parsing error: " ++ ·)
  | .chainLength count =>
    some ("Certificate chain parsing error: expected 2 certificates, found " ++ toString count)

/-- The certificates between a chip's key and the root, in the order in which they are served. -/
structure Chain where
  ask : Pem.Section
  ark : Pem.Section
  deriving DecidableEq

/-- The path of a product's line. -/
def linePath (product : Product) : Except Error String :=
  match product.line.serviceName? with
  | some name => .ok (site ++ keyPath ++ "/" ++ name ++ "/")
  | none => .error (.unsupportedProduct product.line)

/-- The URL of a product's certificate chain. -/
def chainUrl (product : Product) : Except Error String :=
  (linePath product).map (· ++ chainName)

/-- A level in at least two digits. -/
def levelText (level : UInt8) : String :=
  let digits := toString level.toNat
  if digits.length < 2 then "0" ++ digits else digits

/-- The query for patch levels. -/
def levelQuery (levels : PatchLevels) : String :=
  "?blSPL=" ++ levelText levels.bootloader ++ "&teeSPL=" ++ levelText levels.tee ++
    "&snpSPL=" ++ levelText levels.snp ++ "&ucodeSPL=" ++ levelText levels.microcode

/-- The URL of a chip's key at its patch levels. -/
def keyUrl (product : Product) (chip : Bytes) (levels : PatchLevels) : Except Error String :=
  (linePath product).map (· ++ (Hex.encode chip ++ levelQuery levels))

/-- The chain in what was fetched for it: two blocks, no more and no less. -/
def chainOf (bytes : Bytes) : Except Error Chain := do
  match ← (Pem.parse bytes).mapError .pem with
  | [ask, ark] => return ⟨ask, ark⟩
  | sections => throw (.chainLength sections.length)

/-- Fetches a product's certificate chain. -/
def fetchChain (fetcher : Fetcher) (product : Product) : Fetched Error Chain :=
  match chainUrl product with
  | .error error => { result := .error error, after := fetcher }
  | .ok url =>
    let fetched := fetcher.get url
    { result := do chainOf (← fetched.result.mapError .fetch)
      after := fetched.after
      log := fetched.log }

/-- Fetches a chip's key at its patch levels. -/
def fetchKey (fetcher : Fetcher) (product : Product) (chip : Bytes) (levels : PatchLevels) :
    Fetched Error Bytes :=
  match keyUrl product chip levels with
  | .error error => { result := .error error, after := fetcher }
  | .ok url =>
    let fetched := fetcher.get url
    let received :=
      match fetched.result with
      | .ok body =>
        [LogRecord.debug ("Received " ++ toString body.length ++ " bytes from KDS")]
      | .error _ => []
    { result := fetched.result.mapError .fetch
      after := fetched.after
      log := .debug ("Fetching VCEK from URL: " ++ url) :: (fetched.log ++ received) }

end SnpTestbed.Kds
