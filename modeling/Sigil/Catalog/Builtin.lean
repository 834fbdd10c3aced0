import Sigil.Catalog.Basic
import Sigil.Catalog.Builtin.Lists
import Sigil.Catalog.Builtin.Channel
import Sigil.Catalog.Builtin.Chat
import Sigil.Catalog.Builtin.Common
import Sigil.Catalog.Builtin.Logic
import Sigil.Catalog.Builtin.Obs
import Sigil.Catalog.Builtin.Text
import Sigil.Catalog.Builtin.User

/-! # The built-in catalog

    The catalog that is used where no other one is given. -/

namespace Sigil

/-- The built-in definitions. -/
def Builtin.definitions : List Definition :=
  arrayVariables ++ customVariableVariables ++ effectOutputVariables
    ++ fileVariables ++ channelVariables ++ bitsVariables
    ++ chatVariables ++ commandVariables ++ commonVariables
    ++ logicVariables ++ mathVariables ++ timeVariables
    ++ obsVariables ++ textVariables ++ userBasedVariables
    ++ rankVariables ++ extraLifeVariables

/-- The built-in catalog. -/
def Catalog.builtin : Catalog :=
  ofDefinitions Builtin.definitions

end Sigil
