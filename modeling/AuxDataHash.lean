import AuxDataHash.Cbor
import AuxDataHash.Builder
import AuxDataHash.Spec
import AuxDataHash.Run
import AuxDataHash.TwoContexts
import AuxDataHash.Delegations
import AuxDataHash.Reset
import AuxDataHash.Registrations
import AuxDataHash.Language
import AuxDataHash.Encoding
import AuxDataHash.Decoding
import AuxDataHash.Binding
import AuxDataHash.FormatSwitch
import AuxDataHash.Signing
