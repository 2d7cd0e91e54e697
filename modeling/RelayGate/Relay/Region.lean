import RelayGate.Text.Blank

namespace RelayGate.Region

def fallback : String := "us-east-1"

/-- The regions to try for a client believed to be in one, the nearest first. -/
def adjacent : String → List String
  | "us-east-1" => ["us-east-1", "us-west-1", "eu-west-1", "ap-southeast-1"]
  | "us-west-1" => ["us-west-1", "us-east-1", "ap-southeast-1", "eu-west-1"]
  | "eu-west-1" => ["eu-west-1", "eu-central-1", "us-east-1", "ap-southeast-1"]
  | "eu-central-1" => ["eu-central-1", "eu-west-1", "us-east-1", "ap-southeast-1"]
  | "ap-southeast-1" => ["ap-southeast-1", "ap-east-1", "us-west-1", "eu-west-1"]
  | "ap-east-1" => ["ap-east-1", "ap-southeast-1", "us-west-1", "eu-west-1"]
  | "me-south-1" => ["me-south-1", "eu-central-1", "eu-west-1", "ap-southeast-1"]
  | _ => ["us-east-1", "us-west-1", "eu-west-1", "ap-southeast-1"]

/-- Country codes have two ASCII letters of either case. -/
def ofCountry (country : String) : String :=
  match (Text.trim country).map Char.toUpper with
  | "CN" => "ap-east-1"
  | "IR" => "me-south-1"
  | "RU" => "eu-central-1"
  | "DE" => "eu-central-1"
  | "GB" => "eu-west-1"
  | _ => fallback

end RelayGate.Region
