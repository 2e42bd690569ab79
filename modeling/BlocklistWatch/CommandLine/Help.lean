/-!
# Help

What is shown to those who ask how the program is used.
-/

namespace BlocklistWatch

def versionText : String :=
  "dnsbl-monitor 0.1.0\n"

def helpText : String :=
  "Check sending IPs against DNSBL zones\n\n" ++
  "Usage: dnsbl-monitor [OPTIONS] <COMMAND>\n\n" ++
  "Commands:\n" ++
  "  run           Run one full monitoring pass over every stored IP\n" ++
  "  check         Probe a single IP without touching the store or tickets\n" ++
  "  connectivity  Check whether public DNS resolvers answer\n" ++
  "  config        Print the effective configuration as TOML\n" ++
  "  help          Print this message\n\n" ++
  "Options:\n" ++
  "  -c, --config <CONFIG>          Configuration file\n" ++
  "  -o, --output <OUTPUT>          Output format: pretty, json, yaml\n" ++
  "      --log-format <LOG_FORMAT>  Log format: compact, json\n" ++
  "  -v, --verbose                  Enable debug logging\n" ++
  "  -q, --quiet                    Only log warnings and errors\n" ++
  "      --no-color                 Disable colored output\n" ++
  "  -h, --help                     Print help\n" ++
  "  -V, --version                  Print version\n"

end BlocklistWatch
