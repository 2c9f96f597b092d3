import SnpTestbed.Device.Programmed

/-!
# Quotes

A quote is a signed report followed by a certificate table that also tells the
platform. It is made from a programmed device without a command, so the device
need not be open, but its product has to be known.
-/
namespace SnpTestbed.Quote

/-- What the system calls the provider of these quotes. -/
def providerName : String := "sev_guest"

/-- Whether quotes can be had. -/
def isSupported : Bool := true

/-- The certificate table of a quote: the device's own, extended by its platform. -/
def certificateTable (device : ProgrammedDevice) : Except GuestError Bytes :=
  match device.product? with
  | none => .error .productRequired
  | some product =>
    (CertificateTable.extend device.certificates (PlatformInfo.ofProduct product)).mapError
      .certificateTable

/-- The quote for these report data. -/
def make (device : ProgrammedDevice) (data : Report.Data) : Outcome Bytes :=
  match device.lookup data with
  | .error error => { result := .error error }
  | .ok canned =>
    if canned.status.isSuccess then
      let signed := device.sign canned.body
      match signed.result with
      | .error error => { result := .error error, activity := signed.activity }
      | .ok report =>
        match certificateTable device with
        | .error error => { result := .error error, activity := signed.activity }
        | .ok table =>
          { result := .ok (report.val ++ table)
            activity := signed.activity ++ .logging (.debug ("quote: " ++
              toString Report.size ++ " report bytes, " ++ toString table.length ++
              " cert bytes")) }
    else
      { result := .error (.requestFailed canned.exit canned.status)
        activity :=
          .logging (.warn ("injecting firmware error " ++ canned.status.text ++ " for quote")) }

/-- The report and the certificate table of a quote. -/
def split (quote : Bytes) : Except GuestError (Bytes × Bytes) :=
  if quote.length < Report.size then .error (.report (.quoteTooShort quote.length))
  else .ok (quote.take Report.size, quote.drop Report.size)

end SnpTestbed.Quote
