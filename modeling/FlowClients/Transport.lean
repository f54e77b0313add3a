/-!
Generated files, and the one of them that is the same for every schema and version: the transport
module, which posts a request and turns an error answer into an exception.
-/

namespace FlowClients

/-- A file to be written: its path below the output directory, and its text. -/
structure OutputFile where
  path : String
  text : String
deriving DecidableEq

def transportFile : String := "twirp.js"

def transportLines : List String := [
  "// @flow strict",
  "import axios from \"axios\";",
  "",
  "type TwirpErrorJSON = \x7b",
  "  code: string;",
  "  msg: string;",
  "  meta: \x7b [index: string]: string \x7d;",
  "\x7d",
  "",
  "export class TwirpError extends Error \x7b",
  "  code: string;",
  "  meta: \x7b [index: string]: string \x7d;",
  "",
  "  constructor(te: TwirpErrorJSON) \x7b",
  "    super(te.msg);",
  "",
  "    this.code = te.code;",
  "    this.meta = te.meta;",
  "  \x7d",
  "\x7d",
  "",
  "export async function sendTwirpRequest<I, O>(url: string, body: I): Promise<O> \x7b",
  "  try \x7b",
  "    const resp = await axios.post(url, body);",
  "    return (resp.data: O);",
  "  \x7d catch (err) \x7b",
  "    if (err.response) \x7b",
  "      throw new TwirpError((err.response.data: TwirpErrorJSON));",
  "    \x7d",
  "    throw err;",
  "  \x7d",
  "\x7d"]

/-- Every line ends with a newline. -/
def transportModule : OutputFile := ⟨transportFile, String.join (transportLines.map (· ++ "\n"))⟩

end FlowClients
