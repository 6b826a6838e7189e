import TemplateRouter.CommandLine
/-
The pages of help, line by line.
-/
namespace TemplateRouter.CommandLine

def handlersLine : String :=
  "      --handlers <HANDLERS>  " ++
    "Handler directory (defaults to ROUTESWITCH_HANDLERS_DIR or ./handlers)"

def Page.lines : Page → List String
  | .overview =>
    ["URI-template router over a handler directory",
      "",
      "Usage: routeswitch <COMMAND>",
      "",
      "Commands:",
      "  routes  List registered routes in priority order",
      "  match   Match paths against the routes and print the results as JSON lines",
      "  help    Print this message or the help of the given subcommand(s)",
      "",
      "Options:",
      "  -h, --help  Print help"]
  | .routes =>
    ["List registered routes in priority order",
      "",
      "Usage: routeswitch routes [OPTIONS]",
      "",
      "Options:",
      handlersLine,
      "      --json                 Print routes as JSON lines instead of text",
      "  -h, --help                 Print help"]
  | .lookUp =>
    ["Match paths against the routes and print the results as JSON lines",
      "",
      "Usage: routeswitch match [OPTIONS] [PATHS]...",
      "",
      "Arguments:",
      "  [PATHS]...  Paths to match; read from stdin when omitted",
      "",
      "Options:",
      handlersLine,
      "      --watch                Reload routes when the handler directory changes " ++
        "(stdin mode only)",
      "  -h, --help                 Print help"]
  | .help =>
    ["Print this message or the help of the given subcommand(s)",
      "",
      "Usage: routeswitch help [COMMAND]...",
      "",
      "Arguments:",
      "  [COMMAND]...  Print help for the subcommand(s)"]

end TemplateRouter.CommandLine
