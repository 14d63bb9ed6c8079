import KitchenFlow.Config.Typed

/-!
# Configurations for display

A configuration as its author may look at it once it is typed: every field is there, an absent one
as `null`, and what a default decides is told too.
-/

namespace KitchenFlow.NodeConfig

/-- A configuration with all its fields. -/
def toJson : NodeConfig → Json
  | .expirationTrigger c =>
    .object
      [("timeOffset", .ofBinary64 c.timeOffset),
        ("filterCategory", .ofOption .string c.filterCategory)]
  | .inventoryStatusTrigger c =>
    .object
      [("status", .string c.status), ("filterCategory", .ofOption .string c.filterCategory),
        ("threshold", .ofOption .ofBinary64 c.threshold)]
  | .conditionalBranch c =>
    .object
      [("checkField", .string c.checkField), ("operator", .string c.operator.sign),
        ("checkValue", .string c.checkValue)]
  | .updateData c => .object [("targetField", .string c.targetField), ("value", .string c.value)]
  | .generateRecipe c =>
    .object
      [("prompt", .ofOption .string c.prompt), ("servings", .ofOption .ofBinary64 c.servings),
        ("credentialId", .ofOption .string c.credentialId)]
  | .sendNotification c =>
    .object
      [("channel", .string c.channel.name), ("recipient", .string c.recipient),
        ("subject", .ofOption .string c.subject), ("message", .string c.message),
        ("credentialId", .ofOption .string c.credentialId)]
  | .webhookDelivery c =>
    .object
      [("targetUrl", .string c.targetUrl), ("method", .ofOption .string c.method),
        ("includePayload", .ofOption .bool c.includePayload),
        ("effectiveMethod", .string c.effectiveMethod)]
  | .partnerIntegration c =>
    .object
      [("partner", .string c.partner), ("action", .string c.action),
        ("credentialId", .string c.credentialId)]

end KitchenFlow.NodeConfig
