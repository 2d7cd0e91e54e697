import RelayGate.Pack.Basic

namespace RelayGate.Catalog

def transports : List Transport :=
  [⟨"masque", ["icloud.com", "www.icloud.com"], "apple_icloud", .ofList [("quic_version", "1")]⟩,
    ⟨"xtls", ["microsoft.com", "www.microsoft.com"], "microsoft_edge", .ofList [("reality", "true")]⟩,
    ⟨"parasite", ["cdn.cloudflare.com", "cdnjs.cloudflare.com"], "",
      .ofList [("header_encoding", "base64url")]⟩,
    ⟨"ssh", [], "", .ofList [("obfuscated", "true")]⟩]

def channels : List Channel := [.gps, .fmRds, .dtv, .plc, .gsmCb, .lteSib, .blockchain]

def discovery : Discovery := ⟨channels.map Named.name, 300, true⟩

def version : String := "0.1.0"

end RelayGate.Catalog
