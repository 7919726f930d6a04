import HomeVoice.Command

/-!
# Requests to the driving system in documents
-/

namespace HomeVoice

open Json (Decoder Record Value)

namespace DispatchRequest

def record : Record DispatchRequest :=
  DispatchRequest.mk <$> .required "device_id" DeviceId.decode
    <*> .required "service_name" Decoder.string <*> .lenient "converted_value" Decoder.float

def decode : Decoder DispatchRequest := record.decoder "DispatchRequest" false

def encode (request : DispatchRequest) : Value :=
  .object ([("device_id", request.deviceId.encode), ("service_name", .string request.service)]
    ++ Value.memberIfSome "converted_value" .ofFloat request.value)

end DispatchRequest

end HomeVoice
