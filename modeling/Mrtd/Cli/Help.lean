import Mrtd.Cli.Arguments

/-!
What is printed when the arguments ask for help or for the version, or are not understood.
-/

namespace Mrtd.Cli

/-- The text of the help. -/
def helpText : String := "\n".intercalate [
  "Trust validation of travel document certificates and Passive Authentication",
  "",
  "Usage: pkd [OPTIONS] <COMMAND>",
  "",
  "Commands:",
  "  validate CERT          Validate a certificate's chain, structure and revocation status",
  "      -t, --type TYPE        CSCA, DSC, DSC_NC or MLSC [default: DSC]",
  "      --anchor PATH          Trust anchor at which the chain must end",
  "      --no-revocation        Skip the revocation check",
  "      --max-depth N          Greatest number of issuer links",
  "  pa                     Authenticate an EF.SOD and its data groups",
  "      --sod PATH             EF.SOD file",
  "      --dg NUMBER=PATH       Data group file; may be repeated",
  "      -c, --country CODE     Issuing country",
  "      -n, --document-number NUMBER",
  "      --require-embedded-signer",
  "  inspect-sod FILE       Decode an EF.SOD without evaluating trust",
  "  config show            Show the settings in effect",
  "  config path            Print the path of the settings file",
  "  help                   Print this text",
  "",
  "Options:",
  "  -s, --store PATH       Store directory (or the variable PKD_STORE)",
  "  -o, --output FORMAT    pretty or json",
  "  -v, --verbose          Accepted; there is nothing more to print",
  "      --no-color         Accepted; nothing is printed in color",
  "  -h, --help             Print this text",
  "  -V, --version          Print the version",
  ""]

/-- The text of the version. -/
def versionText : String := "pkd 0.3.0\n"

namespace Stop

/-- What is printed as the result. -/
def output : Stop → String
  | usage => ""
  | help => helpText
  | version => versionText

/-- What is printed as the error. -/
def complaint : Stop → String
  | usage => "error: the arguments were not understood\n\n" ++ helpText
  | help | version => ""

end Stop

end Mrtd.Cli
