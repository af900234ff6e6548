import Vignette.Text

/-!
# `Vignette.Command.Example`: a grammar to start from

The text of the grammar that the command line writes on request: visitors of a
cafe, what they order and where they sit.
-/

set_option autoImplicit false

namespace Vignette.Command

/-- The lines of the example grammar. -/
def exampleLines : List String :=
  [ "\x7b",
    "  \"roots\": [",
    "    \"#visitor# <quietly >orders #drink#<, #manner#>.\",",
    "    \"#visitor# arrives<, #manner#,> and takes #seat#.\",",
    "    \"#visitor# and #visitor# share #food#< by #seat#>.\",",
    "    \"the #staff# recommends #drink# to #visitor#<. #aside#>\",",
    "    \"#visitor# leaves a #tip# tip<, #manner#>.\"",
    "  ],",
    "  \"visitor\": [",
    "    \"a #adjective# #creature#\",",
    "    \"the #creature#s from #place#\",",
    "    \"an old #creature#\",",
    "    \"#name#\"",
    "  ],",
    "  \"adjective\": [\"damp\", \"sleepy\", \"nervous\", \"dignified\", \"suspiciously calm\", \"tiny\"],",
    "  \"creature\": [\"otter\", \"heron\", \"badger\", \"moth\", \"newt\", \"crow\"],",
    "  \"name\": [\"Marguerite\", \"Old Tom\", \"the night clerk\", \"Professor Wren\", \"the twins\"],",
    "  \"place\": [\"the marsh\", \"upstairs\", \"the other cafe\", \"the river\"],",
    "  \"drink\": [",
    "    \"a #temperature# #beverage#\",",
    "    \"#beverage#<, no #extra#>\",",
    "    \"the usual\"",
    "  ],",
    "  \"temperature\": [\"hot\", \"lukewarm\", \"iced\", \"scalding\"],",
    "  \"beverage\": [\"tea\", \"coffee\", \"cocoa\", \"pond water\", \"espresso\"],",
    "  \"extra\": [\"sugar\", \"milk\", \"foam\", \"questions\"],",
    "  \"food\": [\"a scone\", \"a slice of pie\", \"the last croissant\", \"#food# and #food#\"],",
    "  \"seat\": [\"the window seat\", \"the corner table\", \"#visitor#'s usual chair\"],",
    "  \"staff\": [\"barista\", \"owner\", \"cook\"],",
    "  \"manner\": [\"without a word\", \"humming\", \"dripping slightly\", \"as always\", \"for once\"],",
    "  \"aside\": [\"Nobody asks why.\", \"It is that kind of day.\", \"The clock ticks on.\"],",
    "  \"tip\": [\"generous\", \"modest\", \"baffling\", \"wet\"]",
    "\x7d" ]

/-- The text of the example grammar. -/
def exampleText : Text :=
  exampleLines.flatMap fun line => line.toList ++ ['\n']

end Vignette.Command
