import Lanewise.Config.Record
import Lanewise.Toml.Reader
import Lanewise.Toml.Writer

namespace Lanewise.Config

def parse (host : Host) (text : String) : Except ConfigFault Config := do
  let entries ← orFail .malformed (Toml.read? text)
  ((record host).read .toml (.map entries)).mapError .misfit

def text (host : Host) (config : Config) : String := Toml.write ((record host).entries config)

def template (host : Host) : String := text host (onHost host)

end Lanewise.Config
